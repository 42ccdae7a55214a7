import SpecReview.CommandLine.Target
import SpecReview.CommandLine.Tint
import SpecReview.Json
import SpecReview.Settings.File

/-! What the program does: the exit status and the output for its arguments. -/

namespace SpecReview.CommandLine

/-- What a run leaves behind. -/
structure Outcome where
  status : Nat
  output : String
  errors : String
  deriving DecidableEq

/-- What validating a target has come to. -/
structure Result where
  target : Target
  report : Except ReviewError Report

namespace Result

/-- A target that could not be validated has failed, and so has one with errors. -/
def failed (r : Result) : Bool :=
  match r.report with
  | .ok report => !report.isValid
  | .error _ => true

end Result

/-! ## Reports as JSON -/

def issueJson (i : Issue) : Json.Value :=
  .record <|
    [("level", .text i.severity.label), ("path", .text i.path), ("message", .text i.message)]
      ++ (i.line.map fun n => ("line", .number n)).toList

def tallyJson (t : Tally) : Json.Value :=
  .record [("errors", .number t.errors), ("warnings", .number t.warnings),
    ("info", .number t.infos)]

def reportJson (r : Report) : Json.Value :=
  .record [("valid", .boolean r.isValid), ("issues", .list (r.issues.map issueJson)),
    ("summary", tallyJson r.tally)]

def resultJson (r : Result) : Json.Value :=
  .record <|
    [("id", .text r.target.id), ("type", .text r.target.kind.label),
      ("valid", .boolean (!r.failed))]
      ++ match r.report with
        | .ok report => [("report", reportJson report)]
        | .error e => [("error", .text e.message)]

/-- Results with their number and the number of those that failed. -/
def resultsJson (rs : List Result) : Json.Value :=
  let failed := rs.countP (·.failed)
  Json.sortFields <| .record
    [("items", .list (rs.map resultJson)),
      ("summary", .record [("total", .number rs.length),
        ("passed", .number (rs.length - failed)), ("failed", .number failed)])]

/-! ## Reports as text -/

def issueText (color : Bool) (i : Issue) : String :=
  (Tint.ofSeverity i.severity).apply color ("[" ++ i.severity.label ++ "]") ++ " " ++ i.path
    ++ ": " ++ i.message ++ "\n"

/-- A target as it is named in texts. -/
def targetText (target : Target) : String :=
  target.kind.label ++ " '" ++ target.id ++ "'"

def summaryText (strict : Bool) (target : Target) (r : Report) : String :=
  (if r.isValid then "✓ " else "✗ ") ++ targetText target ++ ": "
    ++ toString r.tally.errors ++ " error(s), " ++ toString r.tally.warnings ++ " warning(s), "
    ++ toString r.tally.infos ++ " info" ++ (if strict then " (strict)" else "")

def reportText (color strict : Bool) (target : Target) (r : Report) : String :=
  if r.issues.isEmpty then
    Tint.success.apply color ("✓ " ++ targetText target ++ " is valid") ++ "\n"
  else
    String.join (r.issues.map (issueText color))
      ++ (if r.isValid then Tint.success else Tint.failure).apply color
        (summaryText strict target r) ++ "\n"

def resultText (color strict : Bool) (r : Result) : String :=
  match r.report with
  | .ok report => reportText color strict r.target report
  | .error e =>
    Tint.failure.apply color ("✗ " ++ targetText r.target ++ ": " ++ e.message) ++ "\n"

def resultsText (color strict : Bool) (rs : List Result) : String :=
  let failed := rs.countP (·.failed)
  let summary :=
    "Validated " ++ toString rs.length ++ " item(s): " ++ toString (rs.length - failed)
      ++ " passed, " ++ toString failed ++ " failed"
  String.join (rs.map (resultText color strict)) ++ "\n"
    ++ (if failed = 0 then Tint.success else Tint.caution).apply color summary ++ "\n"

/-! ## Commands -/

/-- Validates targets. A target that cannot be validated does not keep others from it. -/
def validateAll (t : FileTree) (settings : Settings) (strict : Bool) (targets : List Target) :
    List Result :=
  targets.map fun target => ⟨target, target.report t settings strict⟩

/-- The outcome of a validation of several targets. -/
def manyOutcome (color strict json : Bool) (rs : List Result) : Outcome where
  status := if rs.any (·.failed) then 1 else 0
  output :=
    if rs.isEmpty then
      if json then Json.render .compact 0 (resultsJson []) ++ "\n"
      else Tint.faint.apply color "Nothing to validate." ++ "\n"
    else if json then Json.render .spread 0 (resultsJson rs) ++ "\n"
    else resultsText color strict rs
  errors := ""

/-- The outcome of a validation of one target. -/
def oneOutcome (color strict json : Bool) (target : Target) (r : Report) : Outcome where
  status := if r.isValid then 0 else 1
  output :=
    if json then Json.render .spread 0 (reportJson r) ++ "\n"
    else reportText color strict target r
  errors := ""

/-- Validates the one target that options name. -/
def validateOne (t : FileTree) (root : Path) (settings : Settings) (strict : Bool)
    (o : ValidateOptions) : Except Failure (Target × Report) := do
  match o.item with
  | none => .error .nothingChosen
  | some item =>
    let target ← Target.resolve t root item o.kind
    match target.report t settings strict with
    | .ok r => .ok (target, r)
    | .error e => .error (.unreviewed target e)

/-- Review is strict if the options or the settings of the project ask for it. -/
def validate (t : FileTree) (color : Bool) (root : Path) (o : ValidateOptions) : Outcome :=
  let settings := Settings.ofProject t root
  let strict := o.strict || settings.strict
  if o.all || o.changes || o.specs then
    let targets := Target.ofProject t root (o.all || o.changes) (o.all || o.specs)
    manyOutcome color strict o.json (validateAll t settings strict targets)
  else
    match validateOne t root settings strict o with
    | .ok (target, r) => oneOutcome color strict o.json target r
    | .error f => ⟨1, "", f.render⟩

/-- The ids of a project's changes or specs. -/
def list (t : FileTree) (color : Bool) (root : Path) (o : ListOptions) : Outcome where
  status := 0
  output :=
    let ids := if o.specs then Project.specIds t root else Project.changeIds t root
    if o.json then Json.render .spread 0 (.list (ids.map .text)) ++ "\n"
    else if ids.isEmpty then
      Tint.faint.apply color ("No " ++ (if o.specs then "specs" else "changes") ++ " found.")
        ++ "\n"
    else String.join (ids.map (· ++ "\n"))
  errors := ""

def Invocation.run (t : FileTree) (color : Bool) (i : Invocation) : Outcome :=
  match i.command with
  | .validate o => validate t color i.root o
  | .list o => list t color i.root o

/-- The name and the version of the program. -/
def versionText : String :=
  "spec-delta 0.1.0\n"

/-- How to call the program. -/
def helpText : String :=
  "Usage: specdelta [-v...] [--root DIR] <COMMAND>\n\n"
    ++ "Commands:\n"
    ++ "  validate [ITEM] [--type change|spec] [--all | --changes | --specs] [--strict] [--json]\n"
    ++ "  list [--specs] [--json]\n"
    ++ "  help\n"

def Stop.outcome : Stop → Outcome
  | .usage => ⟨2, "", helpText⟩
  | .help => ⟨0, helpText, ""⟩
  | .version => ⟨0, versionText, ""⟩

/-- Runs the program on its arguments. -/
def run (t : FileTree) (color : Bool) (args : List String) : Outcome :=
  match Invocation.ofArguments {} args with
  | .ok i => i.run t color
  | .error stop => stop.outcome

end SpecReview.CommandLine
