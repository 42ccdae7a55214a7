/-! Scanning: steps that take something off the front of a text or fail. -/

namespace SpecReview.Toml

/-- A step that takes something off the front of a text, or fails. -/
abbrev Scan := StateT (List Char) Option

namespace Scan

/-- The next character, which stays. -/
def peek? : Scan (Option Char) := do
  return (← get).head?

/-- Takes a character off if it is the next one. -/
def accept (c : Char) : Scan Bool := do
  match ← get with
  | d :: cs => if d = c then set cs; return true else return false
  | [] => return false

/-- Takes off a character that has to be the next one. -/
def char (c : Char) : Scan Unit := do
  guard (← accept c)

/-- Takes characters off as long as they pass. -/
def takeWhile (p : Char → Bool) : Scan (List Char) := do
  let cs ← get
  set (cs.dropWhile p)
  return cs.takeWhile p

/-- Takes off that many characters, which all have to pass. -/
def exactly (p : Char → Bool) (n : Nat) : Scan (List Char) := do
  let cs ← get
  guard (n ≤ cs.length && (cs.take n).all p)
  set (cs.drop n)
  return cs.take n

/-- What a step yields on a text that it has to use up. -/
def whole? {α : Type} (step : Scan α) (cs : List Char) : Option α :=
  match StateT.run step cs with
  | some (a, []) => some a
  | _ => none

/-- Takes off the end of a line, if there is one. -/
def newline : Scan Bool := do
  match ← get with
  | '\n' :: cs => set cs; return true
  | '\r' :: '\n' :: cs => set cs; return true
  | _ => return false

def isSpace (c : Char) : Bool :=
  c = ' ' || c = '\t'

/-- Takes off spaces and tabs. -/
def spaces : Scan Unit := do
  discard (takeWhile isSpace)

/-- Whether a character may stand in comments and quoted texts. -/
def isPlain (c : Char) : Bool :=
  c = '\t' || 0x20 ≤ c.toNat && c.toNat ≠ 0x7F

/-- A text without the carriage return that it ends with. -/
def dropReturn (cs : List Char) : List Char :=
  if cs.getLast? = some '\r' then cs.dropLast else cs

/-- Takes off a comment, if there is one, up to the end of the line. -/
def comment : Scan Unit := do
  if ← accept '#' then
    let body ← takeWhile (· ≠ '\n')
    let ended := !(← get).isEmpty
    guard ((if ended then dropReturn body else body).all isPlain)

/-- Takes off spaces, ends of lines and comments, on at most this many lines. -/
def gapLines : Nat → Scan Unit
  | 0 => failure
  | fuel + 1 => do
    spaces
    comment
    if ← newline then gapLines fuel

/-- Takes off what may stand between two tokens in brackets: spaces, ends of lines and comments. -/
def gap : Scan Unit := do
  gapLines ((← get).length + 1)

/-- Takes off items with a comma between each two, up to a closing character. A comma may follow
the last item. There are fewer items than the first argument. -/
def separated {α : Type} (item : Scan α) (close : Char) : Nat → Scan (List α)
  | 0 => failure
  | fuel + 1 => do
    gap
    if ← accept close then return []
    let a ← item
    gap
    if ← accept close then return [a]
    char ','
    return a :: (← separated item close fuel)

end Scan

end SpecReview.Toml
