import SpecReview.Delta
import SpecReview.Issue
import SpecReview.Ledger
import SpecReview.Review.Fault

/-! The review of the deltas of a change, one file after the other. The ledger carries the names
that earlier files have declared. -/

namespace SpecReview

/-- Two sections of one delta that must not hold the same name. -/
inductive Conflict where
  | addedModified
  | modifiedRemoved
  | addedRemoved
  | modifiedRenamed
  | addedRenamed
  deriving DecidableEq

namespace Conflict

/-- Every conflict, in the order in which they are reported. -/
def all : List Conflict :=
  [.addedModified, .modifiedRemoved, .addedRemoved, .modifiedRenamed, .addedRenamed]

/-- The operation whose entries are reported. -/
def reporter : Conflict → Operation
  | .addedModified => .modified
  | .modifiedRemoved => .removed
  | .addedRemoved => .removed
  | .modifiedRenamed => .modified
  | .addedRenamed => .added

/-- The canonical names that those entries must not have. -/
def forbidden (d : Delta) : Conflict → List String
  | .addedModified => (d.requirements .added).map (·.key)
  | .modifiedRemoved => (d.requirements .modified).map (·.key)
  | .addedRemoved => (d.requirements .added).map (·.key)
  | .modifiedRenamed => d.completeRenames.map (·.sourceKey)
  | .addedRenamed => d.completeRenames.map (·.targetKey)

def message (name : String) : Conflict → String
  | .addedModified =>
    "Requirement \"" ++ name ++ "\" appears in both ADDED and MODIFIED sections"
  | .modifiedRemoved =>
    "Requirement \"" ++ name ++ "\" appears in both MODIFIED and REMOVED sections"
  | .addedRemoved =>
    "Requirement \"" ++ name ++ "\" appears in both ADDED and REMOVED sections"
  | .modifiedRenamed =>
    "MODIFIED requirement \"" ++ name
      ++ "\" is renamed in this delta; refer to it by its new name"
  | .addedRenamed =>
    "ADDED requirement \"" ++ name
      ++ "\" collides with the new name of a RENAMED requirement"

end Conflict

/-- The two names of a rename. -/
inductive Side where
  | source
  | target
  deriving DecidableEq

namespace Side

def label : Side → String
  | .source => "FROM"
  | .target => "TO"

def name (r : Rename) : Side → String
  | .source => r.source
  | .target => r.target

end Side

/-- How a claim collides with an earlier one. -/
inductive Collision where
  /-- An earlier entry of the same section makes the claim. -/
  | repeated
  /-- Another file was the first to make the claim. -/
  | alsoIn (other : Path)
  deriving DecidableEq

/-- What a review finds in a delta. -/
inductive DeltaFinding where
  | emptySection (op : Operation) (line : Nat)
  | fault (op : Operation) (r : Requirement) (f : Fault)
  | collision (op : Operation) (r : Requirement) (c : Collision)
  | incomplete (r : Rename)
  | renameCollision (side : Side) (r : Rename) (c : Collision)
  | conflict (c : Conflict) (r : Requirement)
  deriving DecidableEq

namespace DeltaFinding

def line : DeltaFinding → Nat
  | .emptySection _ line => line
  | .fault _ r f => f.line r
  | .collision _ r _ => r.line
  | .incomplete r => r.line
  | .renameCollision _ r _ => r.line
  | .conflict _ r => r.line

/-- What a section of an operation lists. -/
def expected : Operation → String
  | .renamed => "\"- FROM:\" / \"- TO:\" pairs"
  | _ => "\"### Requirement:\" blocks"

def message (file : Path) : DeltaFinding → String
  | .emptySection op _ =>
    op.keyword ++ " section is empty (no " ++ expected op ++ " found)"
  | .fault op r .noKeyword =>
    op.keyword ++ " requirement \"" ++ r.name ++ "\" must contain SHALL or MUST"
  | .fault op r .noScenario =>
    op.keyword ++ " requirement \"" ++ r.name ++ "\" must include at least one scenario"
  | .fault _ _ (.malformedScenario marker) => Fault.markerMessage marker
  | .collision op r .repeated =>
    "Duplicate requirement \"" ++ r.name ++ "\" in " ++ op.keyword ++ " section"
  | .collision op r (.alsoIn other) =>
    "Requirement \"" ++ r.name ++ "\" is " ++ op.keyword ++ " in multiple files: "
      ++ other.text ++ " and " ++ file.text
  | .incomplete r =>
    "RENAMED entry is malformed: FROM \"" ++ r.source ++ "\" / TO \"" ++ r.target
      ++ "\" (both \"- FROM:\" and \"- TO:\" lines are required)"
  | .renameCollision side r .repeated =>
    "Duplicate " ++ side.label ++ " name \"" ++ side.name r ++ "\" in RENAMED section"
  | .renameCollision side r (.alsoIn other) =>
    "Requirement \"" ++ side.name r ++ "\" is RENAMED (" ++ side.label
      ++ ") in multiple files: " ++ other.text ++ " and " ++ file.text
  | .conflict c r => c.message r.name

/-- The operation and the name of the entry that a finding is about. -/
def entry? : DeltaFinding → Option (Operation × String)
  | .emptySection .. => none
  | .fault op r _ => some (op, r.name)
  | .collision op r _ => some (op, r.name)
  | .incomplete _ => none
  | .renameCollision _ r _ => some (.renamed, r.source)
  | .conflict c r => some (c.reporter, r.name)

/-- The issue of a finding in a file. Whatever a delta gets wrong is an error. -/
def toIssue (file : Path) (f : DeltaFinding) : Issue where
  severity := .error
  path :=
    match f.entry? with
    | some (op, name) => file.text ++ ": " ++ op.keyword ++ " Requirement '" ++ name ++ "'"
    | none => file.text
  message := f.message file
  line := some f.line

end DeltaFinding

namespace Delta

/-- How a claim of a file collides with the earlier names in its section or, failing that, with
another file. -/
def collision? (ledger : Ledger) (file : Path) (earlier : List String) (c : Claim) :
    Option Collision :=
  if c.name ∈ earlier then some .repeated
  else (ledger.otherHolder? file c).map .alsoIn

/-- The findings on requirements to add, modify or remove, after entries with the given names.
Only the names of those to remove are held to anything. -/
def requirementFindings (ledger : Ledger) (file : Path) (op : Operation) (role : Role) :
    List String → List Requirement → List DeltaFinding
  | _, [] => []
  | earlier, r :: rs =>
    (if op = .removed then [] else r.faults.map (.fault op r))
      ++ ((collision? ledger file earlier ⟨role, r.key⟩).toList.map (.collision op r))
      ++ requirementFindings ledger file op role (r.key :: earlier) rs

/-- The findings on renames, after complete renames with the given old and new names. -/
def renameFindings (ledger : Ledger) (file : Path) :
    List String → List String → List Rename → List DeltaFinding
  | _, _, [] => []
  | sources, targets, r :: rs =>
    if r.isComplete then
      (collision? ledger file sources ⟨.renameSource, r.sourceKey⟩).toList.map
          (.renameCollision .source r)
        ++ (collision? ledger file targets ⟨.renameTarget, r.targetKey⟩).toList.map
          (.renameCollision .target r)
        ++ renameFindings ledger file (r.sourceKey :: sources) (r.targetKey :: targets) rs
    else .incomplete r :: renameFindings ledger file sources targets rs

/-- The findings on a section, given those on its entries. -/
def sectionFindings {α : Type} (op : Operation) (findings : List α → List DeltaFinding) :
    Option (Declared α) → List DeltaFinding
  | none => []
  | some s => if s.entries.isEmpty then [.emptySection op s.line] else findings s.entries

/-- The requirements of which the canonical name is not among the given ones, the first of each
such name. -/
def firsts : List String → List Requirement → List Requirement
  | _, [] => []
  | earlier, r :: rs =>
    if r.key ∈ earlier then firsts earlier rs else r :: firsts (r.key :: earlier) rs

/-- The entries that are in conflict with another section. -/
def conflicting (d : Delta) (c : Conflict) : List Requirement :=
  firsts [] ((d.requirements c.reporter).filter (·.key ∈ c.forbidden d))

/-- The findings on a delta: section by section, then the conflicts between sections. -/
def findings (ledger : Ledger) (file : Path) (d : Delta) : List DeltaFinding :=
  sectionFindings .added (requirementFindings ledger file .added .added []) d.added
    ++ sectionFindings .modified (requirementFindings ledger file .modified .modified []) d.modified
    ++ sectionFindings .removed (requirementFindings ledger file .removed .removed []) d.removed
    ++ sectionFindings .renamed (renameFindings ledger file [] []) d.renamed
    ++ Conflict.all.flatMap fun c => (d.conflicting c).map (.conflict c)

/-- The claims that a delta makes. -/
def claims (d : Delta) : List Claim :=
  (d.requirements .added).map (⟨.added, ·.key⟩)
    ++ (d.requirements .modified).map (⟨.modified, ·.key⟩)
    ++ (d.requirements .removed).map (⟨.removed, ·.key⟩)
    ++ d.completeRenames.flatMap fun r =>
      [⟨.renameSource, r.sourceKey⟩, ⟨.renameTarget, r.targetKey⟩]

/-- Reviews the delta of a file and enters its claims. -/
def review (ledger : Ledger) (file : Path) (d : Delta) : List Issue × Ledger :=
  ((d.findings ledger file).map (·.toIssue file), ledger.recordAll file d.claims)

end Delta

end SpecReview
