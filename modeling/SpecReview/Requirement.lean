import SpecReview.Name
import SpecReview.Scenario

/-! The requirements of a text. A requirement is a named heading with the lines after it, up to
the next heading of level two or three. -/

namespace SpecReview

open Text

/-- A line that marks a scenario in a form that does not count. -/
structure Marker where
  line : Nat
  text : String
  deriving DecidableEq

/-- A requirement with the number of its heading line. -/
structure Requirement where
  name : String
  line : Nat
  content : String
  markers : List Marker
  deriving DecidableEq

namespace Requirement

def opening? (l : List Char) : Option String :=
  match Line.kind l with
  | .requirementHead name => some name
  | _ => none

/-- Whether a line ends a requirement without opening another. -/
def closes (l : List Char) : Bool :=
  match Line.kind l with
  | .sectionHead _ => true
  | .heading level => level = 2 || level = 3
  | _ => false

/-- The malformed scenario markers among numbered lines. -/
def markersIn (ls : List (Nat × List Char)) : List Marker :=
  (ls.filter (Line.kind ·.2 = .malformedScenario)).map
    fun (n, l) => ⟨n, String.ofList (trim l)⟩

def ofBlock (b : Block String) : Requirement where
  name := b.head
  line := b.line
  content := String.ofList (trim (joinLines b.body))
  markers := markersIn b.numbered

/-- The requirements in lines of which the first has the given number. -/
def inLines (first : Nat) (ls : List (List Char)) : List Requirement :=
  (Block.all opening? closes first ls).map ofBlock

/-- The requirements of a text, in order. -/
def inText (text : String) : List Requirement :=
  inLines 1 (lines text.toList)

/-- The scenarios in the content of a requirement. -/
def scenarios (r : Requirement) : List String :=
  Scenario.inText r.content

/-- Whether a requirement marks scenarios only in forms that do not count. -/
def onlyMalformed (r : Requirement) : Bool :=
  r.scenarios.isEmpty && !r.markers.isEmpty

/-- The canonical name. -/
def key (r : Requirement) : String :=
  Name.canonical r.name

end Requirement

end SpecReview
