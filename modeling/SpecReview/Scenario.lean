import SpecReview.Block
import SpecReview.Line

/-! The scenarios of a text. A scenario is its heading with the lines after it, up to the next
heading of level three or deeper. -/

namespace SpecReview.Scenario

open Text

/-- The heading that opens a scenario, which is the line itself. -/
def opening? (l : List Char) : Option (List Char) :=
  if Line.kind l = .scenarioHead then some l else none

/-- Whether a line is a heading deep enough to end a scenario. -/
def closes (l : List Char) : Bool :=
  3 ≤ Line.level l

/-- A scenario as one text, its heading included. -/
def ofBlock (b : Block (List Char)) : String :=
  String.ofList (trim (joinLines (b.head :: b.body)))

/-- The scenarios of a text, in order. -/
def inText (text : String) : List String :=
  (Block.all opening? closes 1 (lines text.toList)).map ofBlock

end SpecReview.Scenario
