import SpecReview.Toml.Scan

/-! Quoted texts: in double quotes with escapes or in single quotes without, on one line or, in
three quotes, on several. -/

namespace SpecReview.Toml.Quoted

open Scan

/-- Whether a character opens a quoted text. -/
def opens (c : Char) : Bool :=
  c = '\x22' || c = '\x27'

/-- The value of a hexadecimal digit. -/
def hexValue? (c : Char) : Option Nat :=
  if c.isDigit then some (c.toNat - '0'.toNat)
  else if 'a' ≤ c ∧ c ≤ 'f' then some (c.toNat - 'a'.toNat + 10)
  else if 'A' ≤ c ∧ c ≤ 'F' then some (c.toNat - 'A'.toNat + 10)
  else none

/-- The number that digits write in a base. -/
def numberIn (base : Nat) (cs : List Char) : Nat :=
  cs.foldl (fun n c => n * base + (hexValue? c).getD 0) 0

/-- The character of which the code point follows in that many hexadecimal digits. -/
def codePoint (digits : Nat) : Scan Char := do
  let n := numberIn 16 (← exactly (fun c => (hexValue? c).isSome) digits)
  guard n.isValidChar
  return Char.ofNat n

/-- The character that an escape stands for, after its backslash. -/
def escape : Scan Char := do
  match ← get with
  | [] => failure
  | c :: cs =>
    set cs
    match c with
    | 'b' => return '\x08'
    | 't' => return '\t'
    | 'n' => return '\n'
    | 'f' => return '\x0c'
    | 'r' => return '\r'
    | 'e' => return '\x1b'
    | '\x22' => return '\x22'
    | '\\' => return '\\'
    | 'x' => codePoint 2
    | 'u' => codePoint 4
    | 'U' => codePoint 8
    | _ => failure

/-- A text without the spaces and ends of lines that it starts with. -/
def skipSpace : List Char → List Char
  | '\r' :: '\n' :: cs => skipSpace cs
  | c :: cs => if isSpace c || c = '\n' then skipSpace cs else c :: cs
  | [] => []

/-- What follows a line that a backslash joins to the next, if spaces alone are left of it. -/
def joined? (cs : List Char) : Option (List Char) :=
  match cs.dropWhile isSpace with
  | '\n' :: _ => some (skipSpace cs)
  | '\r' :: '\n' :: _ => some (skipSpace cs)
  | _ => none

/-- Takes off the rest of a text in one pair of quotes and the closing quote. -/
def short (quote : Char) (escapes : Bool) : Nat → Scan (List Char)
  | 0 => failure
  | fuel + 1 => do
    match ← get with
    | [] => failure
    | c :: cs =>
      set cs
      if c = quote then return []
      else if escapes && c = '\\' then return (← escape) :: (← short quote escapes fuel)
      else
        guard (isPlain c)
        return c :: (← short quote escapes fuel)

/-- Takes off the rest of a text in three pairs of quotes and the closing quotes. One or two
quotes right before the closing ones belong to the text. -/
def long (quote : Char) (escapes : Bool) : Nat → Scan (List Char)
  | 0 => failure
  | fuel + 1 => do
    if ← newline then return '\n' :: (← long quote escapes fuel)
    match ← get with
    | [] => failure
    | c :: cs =>
      if c = quote then
        let quotes := ((c :: cs).takeWhile (· = quote)).length
        if 3 ≤ quotes then
          set ((c :: cs).drop (min quotes 5))
          return List.replicate (min quotes 5 - 3) quote
        set cs
        return quote :: (← long quote escapes fuel)
      set cs
      if escapes && c = '\\' then
        match joined? cs with
        | some rest =>
          set rest
          long quote escapes fuel
        | none => return (← escape) :: (← long quote escapes fuel)
      else
        guard (isPlain c)
        return c :: (← long quote escapes fuel)

/-- Takes off a text in one pair of quotes. -/
def onOneLine : Scan String := do
  let fuel := (← get).length
  if ← accept '\x22' then return String.ofList (← short '\x22' true fuel)
  char '\x27'
  return String.ofList (← short '\x27' false fuel)

/-- Takes off a quoted text of either form. -/
def text : Scan String := do
  let cs ← get
  match cs with
  | q :: r :: s :: rest =>
    if opens q && r = q && s = q then
      set rest
      discard newline
      return String.ofList (← long q (q = '\x22') cs.length)
    onOneLine
  | _ => onOneLine

end SpecReview.Toml.Quoted
