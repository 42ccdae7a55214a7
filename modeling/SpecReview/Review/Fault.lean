import SpecReview.Requirement
import SpecReview.Text.WordChar

/-! What every requirement has to have, in a base spec as in a delta. -/

namespace SpecReview

/-- The keywords of which the content of a requirement holds one. -/
def normativeKeywords : List (List Char) :=
  ["shall".toList, "must".toList]

/-- Whether a text holds a normative keyword. -/
def isNormative (text : String) : Bool :=
  Text.containsKeyword normativeKeywords text.toList

/-- What is wrong with a requirement by itself. -/
inductive Fault where
  | noKeyword
  | noScenario
  /-- The requirement has no scenario, and this marker was meant to open one. -/
  | malformedScenario (marker : Marker)
  deriving DecidableEq

namespace Requirement

/-- The faults of a requirement, in the order in which they are reported. -/
def faults (r : Requirement) : List Fault :=
  (if isNormative r.content then [] else [.noKeyword])
    ++ (if r.scenarios.isEmpty then [.noScenario] else [])
    ++ (if r.onlyMalformed then r.markers.head?.toList.map .malformedScenario else [])

end Requirement

namespace Fault

/-- The line of a fault: that of the marker, or else of the requirement's heading. -/
def line (r : Requirement) : Fault → Nat
  | .malformedScenario marker => marker.line
  | _ => r.line

/-- The message on a marker that does not count as a scenario heading. -/
def markerMessage (marker : Marker) : String :=
  "Scenarios must use level-4 headings (\"#### Scenario: <name>\"); found \"" ++ marker.text
    ++ "\""

end Fault

end SpecReview
