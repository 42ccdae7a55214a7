import SpecReview.Text.Blank

/-! The kinds of lines in a spec: three marked headings, spellings of a scenario heading that
do not count as one, other headings, and text. -/

namespace SpecReview

open Text

/-- What a line is to the structure of a spec. -/
inductive LineKind where
  /-- A section heading `## <name>`. -/
  | sectionHead (name : String)
  /-- A requirement heading `### Requirement: <name>`. -/
  | requirementHead (name : String)
  /-- A scenario heading `#### Scenario: <name>`. -/
  | scenarioHead
  /-- A scenario marked by another heading level or by bold text. -/
  | malformedScenario
  /-- A line that starts with this many hashes and is none of the above. -/
  | heading (level : Nat)
  | text
  deriving DecidableEq

namespace Line

/-- What follows an opening. -/
def after? : List Char → List Char → Option (List Char)
  | [], cs => some cs
  | _ :: _, [] => none
  | o :: os, c :: cs => if o = c then after? os cs else none

/-- What follows one or more blanks. -/
def afterBlanks? : List Char → Option (List Char)
  | [] => none
  | c :: cs => if isBlank c then some (trimStart cs) else none

/-- A text without the blanks at its ends, as a name. A blank text is no name. -/
def named? (cs : List Char) : Option String :=
  match trim cs with
  | [] => none
  | d :: ds => some (String.ofList (d :: ds))

/-- How many hashes a line starts with. -/
def hashes : List Char → Nat
  | '#' :: cs => hashes cs + 1
  | _ => 0

/-- What follows hashes of this number, blanks and a mark. -/
def marked? (level : Nat) (mark : String) (cs : List Char) : Option (List Char) := do
  let rest ← after? (List.replicate level '#') cs
  let rest ← afterBlanks? rest
  after? mark.toList rest

def sectionName? (cs : List Char) : Option String :=
  (marked? 2 "" cs).bind named?

def requirementName? (cs : List Char) : Option String :=
  (marked? 3 "Requirement:" cs).bind named?

/-- Whether a line is a scenario heading, which has something after its mark. -/
def isScenario (cs : List Char) : Bool :=
  match marked? 4 "Scenario:" cs with
  | some (_ :: _) => true
  | _ => false

/-- Whether a line, from its first character that is not blank, marks a scenario by three, five
or six hashes, or by bold text with or without a bullet. -/
def isMalformedScenario (cs : List Char) : Bool :=
  let cs := trimStart cs
  let bullet :=
    match cs with
    | c :: rest => if c = '-' || c = '*' then afterBlanks? rest else none
    | [] => none
  [3, 5, 6].any (fun level => (marked? level "Scenario:" cs).isSome)
    || (after? "**Scenario:".toList cs).isSome
    || (bullet.bind (after? "**Scenario:".toList)).isSome

/-- The kind of a line: the first that fits, in the order in which the kinds are declared. -/
def kind (cs : List Char) : LineKind :=
  match sectionName? cs with
  | some name => .sectionHead name
  | none =>
    match requirementName? cs with
    | some name => .requirementHead name
    | none =>
      if isScenario cs then .scenarioHead
      else if isMalformedScenario cs then .malformedScenario
      else
        match hashes cs with
        | 0 => .text
        | level + 1 => .heading (level + 1)

/-- The level of a line as a heading, which is zero for text. A malformed scenario has the level
that its line shows, which is zero where the hashes are indented. -/
def level (cs : List Char) : Nat :=
  match kind cs with
  | .sectionHead _ => 2
  | .requirementHead _ => 3
  | .scenarioHead => 4
  | .malformedScenario => hashes cs
  | .heading level => level
  | .text => 0

/-- The rest after an opening is what the opening stands in front of. -/
theorem after?_eq_some_iff {os cs rest : List Char} :
    after? os cs = some rest ↔ cs = os ++ rest := by
  induction os generalizing cs with
  | nil => simp [after?, eq_comm]
  | cons o os ih =>
      cases cs with
      | nil => simp [after?]
      | cons c cs =>
          by_cases h : o = c
          · simp [after?, h, ih]
          · simp [after?, h, Ne.symm h]

end Line

end SpecReview
