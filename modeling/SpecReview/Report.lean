import SpecReview.Issue

/-! Reports: the issues of one spec or change with their number by severity. -/

namespace SpecReview

/-- The number of issues of each severity. -/
structure Tally where
  errors : Nat
  warnings : Nat
  infos : Nat
  deriving DecidableEq

/-- The outcome of a review, with the issues in the order in which they were found. -/
structure Report where
  issues : List Issue
  deriving DecidableEq

namespace Report

/-- The report of the issues that a review found. -/
def ofIssues (strict : Bool) (issues : List Issue) : Report :=
  ⟨if strict then issues.map Issue.escalate else issues⟩

def countOf (r : Report) (s : Severity) : Nat :=
  r.issues.countP (·.severity = s)

def tally (r : Report) : Tally where
  errors := r.countOf .error
  warnings := r.countOf .warning
  infos := r.countOf .info

/-- A report without errors is valid. -/
def isValid (r : Report) : Bool :=
  r.tally.errors = 0

/-- The report as text, one line for each issue. -/
def render (r : Report) : String :=
  r.issues.foldr (fun i rest => i.render ++ "\n" ++ rest) ""

/-- A report is valid exactly if none of its issues is an error. -/
theorem isValid_iff {r : Report} : r.isValid = true ↔ ∀ i ∈ r.issues, i.severity ≠ .error := by
  simp [isValid, tally, countOf, List.countP_eq_zero]

end Report

end SpecReview
