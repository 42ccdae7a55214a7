import SpecReview.Line
import SpecReview.Name

/-! Renames, which a delta declares on lines `- FROM: <name>` and `- TO: <name>`. -/

namespace SpecReview

open Text

/-- A rename. A side that the delta leaves out is empty. The line is that of the old name, or
that of the new name where no old name goes before it. -/
structure Rename where
  source : String
  target : String
  line : Nat
  deriving DecidableEq

namespace Rename

/-- Whether a rename has both names. -/
def isComplete (r : Rename) : Bool :=
  !r.source.isEmpty && !r.target.isEmpty

/-- What follows the blanks of a text and then, if it is there, one character. -/
def skipMark (mark : Char) (cs : List Char) : List Char :=
  match trimStart cs with
  | c :: rest => if c = mark then rest else c :: rest
  | [] => []

/-- A text without a requirement heading's mark that it may start with. -/
def skipHeading (cs : List Char) : List Char :=
  (Line.marked? 3 "Requirement:" cs).getD cs

/-- The name on one side of a rename: a name or a requirement heading, either of them in
backticks or with only one of the two. -/
def sideName (cs : List Char) : String :=
  let rest := trimStart (skipHeading (trimStart (skipMark '\x60' cs)))
  String.ofList (trimEnd (skipMark '\x60' rest.reverse).reverse)

/-- The name on a line that a bullet and this mark open. -/
def side? (mark : String) (l : List Char) : Option String := do
  let rest ← Line.after? ['-'] (trimStart l)
  let rest ← Line.after? mark.toList (trimStart rest)
  pure (sideName rest)

def source? (l : List Char) : Option String :=
  side? "FROM:" l

def target? (l : List Char) : Option String :=
  side? "TO:" l

/-- Pairs the sides on numbered lines, given an old name with its line that waits for a new one.
A new name belongs to the last old name that has none yet. -/
def pair : Option (String × Nat) → List (Nat × List Char) → List Rename
  | none, [] => []
  | some (source, n), [] => [⟨source, "", n⟩]
  | waiting, (n, l) :: ls =>
    match source? l with
    | some name =>
      match waiting with
      | none => pair (some (name, n)) ls
      | some (source, m) => ⟨source, "", m⟩ :: pair (some (name, n)) ls
    | none =>
      match target? l with
      | some name =>
        match waiting with
        | none => ⟨"", name, n⟩ :: pair none ls
        | some (source, m) => ⟨source, name, m⟩ :: pair none ls
      | none => pair waiting ls

/-- The renames on numbered lines. -/
def inLines (ls : List (Nat × List Char)) : List Rename :=
  pair none ls

/-- The canonical old name. -/
def sourceKey (r : Rename) : String :=
  Name.canonical r.source

/-- The canonical new name. -/
def targetKey (r : Rename) : String :=
  Name.canonical r.target

end Rename

end SpecReview
