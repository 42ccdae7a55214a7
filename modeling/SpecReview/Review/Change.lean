import SpecReview.Merge
import SpecReview.Project
import SpecReview.Report
import SpecReview.Review.Base
import SpecReview.Review.Delta

/-! The review of the specs and changes in a file tree. What is wrong with the content of a file
is reported; a file that cannot be read ends the review. -/

namespace SpecReview

/-- Why there is no report. -/
inductive ReviewError where
  | unreadable (path : Path) (cause : ReadError)
  | noSpecsFolder (path : Path)
  | noDeltaFiles (path : Path)
  deriving DecidableEq

namespace ReviewError

def message : ReviewError → String
  | .unreadable path _ => "failed to read " ++ path.text
  | .noSpecsFolder path => "specs directory not found: " ++ path.text
  | .noDeltaFiles path => "no spec.md files found under " ++ path.text

/-- The error behind an error. -/
def cause? : ReviewError → Option ReadError
  | .unreadable _ cause => some cause
  | _ => none

end ReviewError

namespace Change

/-- The issue of a delta file that cannot be merged. -/
def mergeIssue (file : DeltaFile) (o : Obstacle) : Issue where
  severity := .error
  path := file.path.text
  message := file.capability.text ++ " fails: " ++ o.message
  line := none

/-- The issue of a change that declares nothing. -/
def emptyIssue (specs : Path) : Issue where
  severity := .error
  path := specs.text
  message :=
    "Change must have at least one delta operation (ADDED, MODIFIED, REMOVED or RENAMED)"
  line := none

/-- The path of the base spec for a delta file. -/
def basePath (bases : Path) (file : DeltaFile) : Path :=
  (bases.join file.capability.text).join specFile

/-- A reading along with the path that was read. -/
def readAt {α : Type} (p : Path) : Except ReadError α → Except ReviewError α
  | .ok a => .ok a
  | .error e => .error (.unreadable p e)

/-- Reviews delta files in order, each against its base spec: the issues, and how many sections
with operations there are. -/
def reviewFiles (t : FileTree) (bases : Path) :
    Ledger → List DeltaFile → Except ReviewError (List Issue × Nat)
  | _, [] => .ok ([], 0)
  | ledger, file :: files => do
    let delta := Delta.ofText (← readAt file.path (t.read file.path))
    let (issues, ledger) := delta.review ledger file.path
    let base := basePath bases file
    let obstacle := delta.obstacle? (← readAt base (t.readOptional base))
    let (others, count) ← reviewFiles t bases ledger files
    pure (issues ++ obstacle.toList.map (mergeIssue file) ++ others, delta.sectionCount + count)

/-- The issues of a change. -/
def issues (t : FileTree) (change : Path) : Except ReviewError (List Issue) :=
  let specs := change.join "specs"
  if !t.isFolder specs then .error (.noSpecsFolder specs)
  else
    match t.deltaFiles specs with
    | [] => .error (.noDeltaFiles specs)
    | files => do
      let (issues, count) ← reviewFiles t (Project.baseSpecs change) Ledger.empty files
      pure (if count = 0 then issues ++ [emptyIssue specs] else issues)

/-- The report on a change. -/
def report (t : FileTree) (strict : Bool) (change : Path) : Except ReviewError Report :=
  (issues t change).map (Report.ofIssues strict)

end Change

namespace Base

/-- The report on a base spec. -/
def report (t : FileTree) (settings : Settings) (strict : Bool) (path : Path) :
    Except ReviewError Report :=
  (Change.readAt path (t.read path)).map fun text =>
    Report.ofIssues strict (review settings path.text text)

end Base

end SpecReview
