/-! Issues, which a review reports. -/

namespace SpecReview

inductive Severity where
  | error
  | warning
  | info
  deriving DecidableEq

namespace Severity

def label : Severity → String
  | .error => "ERROR"
  | .warning => "WARNING"
  | .info => "INFO"

/-- The severity under strict review, where a warning counts as an error. -/
def escalate : Severity → Severity
  | .warning => .error
  | s => s

end Severity

/-- A problem of a file. The path may go on to say where in the file, and the line is left out
where it is not known. -/
structure Issue where
  severity : Severity
  path : String
  message : String
  line : Option Nat
  deriving DecidableEq

namespace Issue

def escalate (i : Issue) : Issue :=
  { i with severity := i.severity.escalate }

/-- The issue as a line of a report. -/
def render (i : Issue) : String :=
  "[" ++ i.severity.label ++ "] " ++ i.path ++ ": " ++ i.message

end Issue

end SpecReview
