import SpecReview.Issue
import SpecReview.Review.Fault
import SpecReview.Section
import SpecReview.Settings

/-! The review of a base spec by itself. -/

namespace SpecReview

/-- What a review finds in a base spec. -/
inductive BaseFinding where
  | noPurpose
  | noRequirements
  /-- The Purpose section on this line has fewer characters than the limit. -/
  | briefPurpose (limit line : Nat)
  | fault (r : Requirement) (f : Fault)
  /-- The content of a requirement has more characters than the limit. -/
  | tooLong (r : Requirement) (limit : Nat)
  deriving DecidableEq

namespace BaseFinding

/-- A missing section is missed on the first line. -/
def line : BaseFinding → Nat
  | .noPurpose => 1
  | .noRequirements => 1
  | .briefPurpose _ line => line
  | .fault r f => f.line r
  | .tooLong r _ => r.line

def severity : BaseFinding → Severity
  | .noPurpose => .error
  | .noRequirements => .error
  | .briefPurpose .. => .warning
  | .fault _ (.malformedScenario _) => .error
  | .fault .. => .warning
  | .tooLong .. => .info

/-- The requirement that a finding is about. -/
def requirement? : BaseFinding → Option Requirement
  | .fault r _ => some r
  | .tooLong r _ => some r
  | _ => none

def message : BaseFinding → String
  | .noPurpose => "Spec must have a Purpose section"
  | .noRequirements => "Spec must have a Requirements section"
  | .briefPurpose limit _ =>
    "Purpose section is too brief (less than " ++ toString limit ++ " characters)"
  | .fault r .noKeyword => "Requirement \"" ++ r.name ++ "\" must contain SHALL or MUST"
  | .fault r .noScenario => "Requirement \"" ++ r.name ++ "\" must have at least one scenario"
  | .fault _ (.malformedScenario marker) => Fault.markerMessage marker
  | .tooLong _ limit =>
    "Requirement text is very long (more than " ++ toString limit ++ " characters)"

/-- The issue of a finding in the spec at a path. -/
def toIssue (path : String) (f : BaseFinding) : Issue where
  severity := f.severity
  path :=
    match f.requirement? with
    | some r => path ++ ": Requirement '" ++ r.name ++ "'"
    | none => path
  message := f.message
  line := some f.line

end BaseFinding

namespace Base

/-- The findings on one requirement. -/
def requirementFindings (settings : Settings) (r : Requirement) : List BaseFinding :=
  r.faults.map (.fault r) ++
    match settings.maxRequirementLength with
    | some limit => if limit < r.content.length then [.tooLong r limit] else []
    | none => []

/-- The findings on a Purpose section. -/
def purposeFindings (settings : Settings) (s : Section) : List BaseFinding :=
  if s.body.length < settings.minPurposeLength then
    [.briefPurpose settings.minPurposeLength s.line]
  else []

/-- The findings on the text of a base spec: first the sections that are missing, then the
Purpose, then the requirements in order. -/
def findings (settings : Settings) (text : String) : List BaseFinding :=
  let ss := Section.inText text
  let purpose := Section.find? "Purpose" ss
  let requirements := Section.find? "Requirements" ss
  (if purpose.isNone then [.noPurpose] else [])
    ++ (if requirements.isNone then [.noRequirements] else [])
    ++ purpose.toList.flatMap (purposeFindings settings)
    ++ requirements.toList.flatMap (·.requirements.flatMap (requirementFindings settings))

/-- The review of the base spec at a path. -/
def review (settings : Settings) (path text : String) : List Issue :=
  (findings settings text).map (·.toIssue path)

end Base

end SpecReview
