import SpecReview.Proofs.Block
import SpecReview.Proofs.Merge.Obstacle
import SpecReview.Review.Delta

/-! # Deltas with other names and other lines

A delta is rewritten when its names are spelled in another way, with the same canonical forms, and
its lines get other numbers. What a review finds in it and what stands in the way of its merge are
rewritten along with it, and its claims stay. -/

namespace SpecReview

/-- A way to spell names and to number lines. -/
structure Rewriting where
  name : String → String
  line : Nat → Nat
  canonical_name : ∀ n, Name.canonical (name n) = Name.canonical n

namespace Rewriting

variable (w : Rewriting)

/-! ## Values -/

def marker (m : Marker) : Marker where
  line := w.line m.line
  text := m.text

def requirement (r : Requirement) : Requirement where
  name := w.name r.name
  line := w.line r.line
  content := r.content
  markers := r.markers.map w.marker

def rename (r : Rename) : Rename where
  source := w.name r.source
  target := w.name r.target
  line := w.line r.line

/-- A section with its entries as they are rewritten. -/
def declared {α : Type} (entry : α → α) (s : Declared α) : Declared α where
  line := w.line s.line
  entries := s.entries.map entry

def delta (d : Delta) : Delta where
  added := d.added.map (w.declared w.requirement)
  modified := d.modified.map (w.declared w.requirement)
  removed := d.removed.map (w.declared w.requirement)
  renamed := d.renamed.map (w.declared w.rename)

def fault : Fault → Fault
  | .noKeyword => .noKeyword
  | .noScenario => .noScenario
  | .malformedScenario m => .malformedScenario (w.marker m)

def finding : DeltaFinding → DeltaFinding
  | .emptySection op line => .emptySection op (w.line line)
  | .fault op r f => .fault op (w.requirement r) (w.fault f)
  | .collision op r c => .collision op (w.requirement r) c
  | .incomplete r => .incomplete (w.rename r)
  | .renameCollision side r c => .renameCollision side (w.rename r) c
  | .conflict c r => .conflict c (w.requirement r)

def entry : Delta.Entry → Delta.Entry
  | .modify r => .modify (w.requirement r)
  | .remove r => .remove (w.requirement r)
  | .rename r => .rename (w.rename r)
  | .add r => .add (w.requirement r)

def obstacle : Obstacle → Obstacle
  | .noBase op => .noBase op
  | .modifiedMissing name => .modifiedMissing (w.name name)
  | .removedMissing name => .removedMissing (w.name name)
  | .renameSourceMissing source => .renameSourceMissing (w.name source)
  | .renameTargetTaken source target => .renameTargetTaken (w.name source) (w.name target)
  | .alreadyExists name => .alreadyExists (w.name name)

/-- A rename keeps both names if it had both. Spelling alone does not tell: the canonical form of
a blank name is that of no name. -/
def Keeps (r : Rename) : Prop :=
  (w.rename r).isComplete = r.isComplete

@[simp]
theorem key_requirement (r : Requirement) : (w.requirement r).key = r.key :=
  w.canonical_name r.name

@[simp]
theorem sourceKey_rename (r : Rename) : (w.rename r).sourceKey = r.sourceKey :=
  w.canonical_name r.source

@[simp]
theorem targetKey_rename (r : Rename) : (w.rename r).targetKey = r.targetKey :=
  w.canonical_name r.target

theorem faults_requirement (r : Requirement) :
    (w.requirement r).faults = r.faults.map w.fault := by
  have hscenarios : (w.requirement r).scenarios = r.scenarios := rfl
  have hmalformed : (w.requirement r).onlyMalformed = r.onlyMalformed := by
    simp only [Requirement.onlyMalformed, hscenarios]
    simp [requirement]
  simp only [Requirement.faults, hscenarios, hmalformed, List.map_append]
  congr 1
  · congr 1
    · by_cases h : isNormative r.content = true <;> simp [requirement, h, fault]
    · by_cases h : r.scenarios = [] <;> simp [h, fault]
  · by_cases h : r.onlyMalformed = true
    · rw [if_pos h, if_pos h, requirement]
      cases r.markers <;> rfl
    · rw [if_neg h, if_neg h]
      rfl

@[simp]
theorem line_finding (f : DeltaFinding) : (w.finding f).line = w.line f.line := by
  cases f with
  | fault op r f => cases f <;> rfl
  | emptySection op line => rfl
  | collision op r c => rfl
  | incomplete r => rfl
  | renameCollision side r c => rfl
  | conflict c r => rfl

/-! ## Entries -/

@[simp]
theorem requirements_delta (d : Delta) (op : Operation) :
    (w.delta d).requirements op = (d.requirements op).map w.requirement := by
  have hentries (s : Option (Declared Requirement)) :
      ((s.map (w.declared w.requirement)).map (·.entries)).getD [] =
        ((s.map (·.entries)).getD []).map w.requirement := by
    cases s <;> rfl
  cases op
  · exact hentries d.added
  · exact hentries d.modified
  · exact hentries d.removed
  · rfl

theorem renames_delta (d : Delta) : (w.delta d).renames = d.renames.map w.rename := by
  simp only [Delta.renames, delta]
  cases d.renamed <;> rfl

theorem completeRenames_delta {d : Delta} (h : ∀ r ∈ d.renames, w.Keeps r) :
    (w.delta d).completeRenames = d.completeRenames.map w.rename := by
  rw [Delta.completeRenames, renames_delta, List.filter_map, Delta.completeRenames]
  exact congrArg _ (List.filter_congr h)

/-! ## Review -/

variable (ledger : Ledger) (file : Path)

theorem requirementFindings_map (op : Operation) (role : Role) (earlier : List String)
    (rs : List Requirement) :
    Delta.requirementFindings ledger file op role earlier (rs.map w.requirement) =
      (Delta.requirementFindings ledger file op role earlier rs).map w.finding := by
  induction rs generalizing earlier with
  | nil => rfl
  | cons r rs ih =>
      have hfaults : (if op = .removed then [] else
          (w.requirement r).faults.map (DeltaFinding.fault op (w.requirement r))) =
            (if op = .removed then [] else r.faults.map (DeltaFinding.fault op r)).map
              w.finding := by
        split
        · rfl
        · rw [faults_requirement, List.map_map, List.map_map]
          rfl
      rw [List.map_cons, Delta.requirementFindings, Delta.requirementFindings, key_requirement, ih,
        hfaults]
      simp [finding]

theorem renameFindings_map (sources targets : List String) {rs : List Rename}
    (h : ∀ r ∈ rs, w.Keeps r) :
    Delta.renameFindings ledger file sources targets (rs.map w.rename) =
      (Delta.renameFindings ledger file sources targets rs).map w.finding := by
  induction rs generalizing sources targets with
  | nil => rfl
  | cons r rs ih =>
      have hr : (w.rename r).isComplete = r.isComplete := h r (by simp)
      have ih (sources targets) := ih sources targets fun s hs => h s (List.mem_cons_of_mem r hs)
      rw [List.map_cons, Delta.renameFindings, Delta.renameFindings, hr]
      by_cases hc : r.isComplete <;> simp [hc, ih, Function.comp_def, finding]

theorem sectionFindings_map {α : Type} {entry : α → α} {findings : List α → List DeltaFinding}
    {s : Option (Declared α)}
    (h : ∀ x ∈ s, findings (x.entries.map entry) = (findings x.entries).map w.finding)
    (op : Operation) :
    Delta.sectionFindings op findings (s.map (w.declared entry)) =
      (Delta.sectionFindings op findings s).map w.finding := by
  cases s with
  | none => rfl
  | some s =>
      have hs := h s rfl
      cases hentries : s.entries with
      | nil => simp [Delta.sectionFindings, declared, finding, hentries]
      | cons x xs =>
          rw [hentries] at hs
          simpa [Delta.sectionFindings, declared, hentries] using hs

theorem firsts_map (earlier : List String) (rs : List Requirement) :
    Delta.firsts earlier (rs.map w.requirement) = (Delta.firsts earlier rs).map w.requirement := by
  induction rs generalizing earlier with
  | nil => rfl
  | cons r rs ih =>
      rw [List.map_cons, Delta.firsts, Delta.firsts, key_requirement, ih, ih]
      by_cases h : r.key ∈ earlier <;> simp [h]

variable {d : Delta} (h : ∀ r ∈ d.renames, w.Keeps r)
include h

theorem conflicting_delta (c : Conflict) :
    (w.delta d).conflicting c = (d.conflicting c).map w.requirement := by
  have hforbidden : c.forbidden (w.delta d) = c.forbidden d := by
    cases c <;> simp [Conflict.forbidden, w.completeRenames_delta h, Function.comp_def]
  rw [Delta.conflicting, Delta.conflicting, hforbidden, requirements_delta, List.filter_map,
    firsts_map]
  simp [Function.comp_def]

/-- The findings on a rewritten delta are those on the delta, rewritten. -/
theorem findings_delta :
    (w.delta d).findings ledger file = (d.findings ledger file).map w.finding := by
  have hconflicts : (Conflict.all.flatMap fun c =>
      ((w.delta d).conflicting c).map (DeltaFinding.conflict c)) =
        (Conflict.all.flatMap fun c => (d.conflicting c).map (DeltaFinding.conflict c)).map
          w.finding := by
    simp [w.conflicting_delta h, List.map_flatMap, Function.comp_def, finding]
  have hrequirements (op : Operation) (role : Role) (s : Option (Declared Requirement)) :=
    w.sectionFindings_map (s := s)
      (fun x _ => w.requirementFindings_map ledger file op role [] x.entries) op
  have hrenames := w.sectionFindings_map (s := d.renamed)
    (fun x hx => w.renameFindings_map ledger file [] [] fun r hr =>
      h r (by simpa [Delta.renames, Option.mem_def.mp hx] using hr)) .renamed
  rw [Delta.findings, Delta.findings, hconflicts]
  simp only [delta, List.map_append, hrequirements, hrenames]

theorem claims_delta : (w.delta d).claims = d.claims := by
  simp [Delta.claims, w.completeRenames_delta h, List.flatMap_map, Function.comp_def]

/-! ## Merge -/

theorem obstacle?_entry (existing : List String) (x : Delta.Entry) :
    (w.entry x).obstacle? existing (w.delta d) = (x.obstacle? existing d).map w.obstacle := by
  have hrenamed : Delta.renamedNames existing (w.delta d) = Delta.renamedNames existing d := by
    simp [Delta.renamedNames, w.completeRenames_delta h, List.filter_map, Function.comp_def]
  cases x with
  | modify r =>
      rw [entry, Delta.Entry.obstacle?, Delta.Entry.obstacle?, key_requirement, hrenamed]
      split <;> rfl
  | remove r =>
      rw [entry, Delta.Entry.obstacle?, Delta.Entry.obstacle?, key_requirement]
      split <;> rfl
  | rename r =>
      rw [entry, Delta.Entry.obstacle?, Delta.Entry.obstacle?, Delta.renameObstacle?,
        Delta.renameObstacle?, sourceKey_rename, targetKey_rename]
      split
      · rfl
      · split <;> rfl
  | add r =>
      rw [entry, Delta.Entry.obstacle?, Delta.Entry.obstacle?, key_requirement]
      split <;> rfl

theorem entries_delta : (w.delta d).entries = d.entries.map w.entry := by
  simp [Delta.entries, w.completeRenames_delta h, Function.comp_def, entry]

/-- What stands in the way of a rewritten delta is what stands in the way of the delta, rewritten. -/
theorem obstacle?_delta (base : Option String) :
    (w.delta d).obstacle? base = (d.obstacle? base).map w.obstacle := by
  cases base with
  | none =>
      simp only [Delta.obstacle?, Delta.obstacleWithoutBase?, requirements_delta,
        w.completeRenames_delta h, List.isEmpty_map, apply_ite (Option.map w.obstacle)]
      rfl
  | some base =>
      rw [Delta.obstacle?, Delta.obstacleAmong?_eq_findSome?, w.entries_delta h,
        List.findSome?_map, Delta.obstacle?, Delta.obstacleAmong?_eq_findSome?, List.map_findSome?]
      exact congrArg (List.findSome? · d.entries) (funext (w.obstacle?_entry h _))

end Rewriting

/-! ## Lines with other numbers -/

/-- Names stay as they are, and lines get other numbers. -/
def Rewriting.renumber (line : Nat → Nat) : Rewriting where
  name := id
  line := line
  canonical_name _ := rfl

/-- Every line moves down. -/
def Rewriting.down (k : Nat) : Rewriting :=
  renumber fun n => n + k

namespace Requirement

theorem markersIn_add (n k : Nat) (ls : List (List Char)) :
    markersIn (Text.numberFrom (n + k) ls) =
      (markersIn (Text.numberFrom n ls)).map (Rewriting.down k).marker := by
  rw [Text.numberFrom_add, markersIn, markersIn, List.filter_map, List.map_map, List.map_map]
  rfl

theorem inLines_add (n k : Nat) (ls : List (List Char)) :
    inLines (n + k) ls = (inLines n ls).map (Rewriting.down k).requirement := by
  have hblock (b : Block String) :
      ofBlock { b with line := b.line + k } = (Rewriting.down k).requirement (ofBlock b) := by
    have hmarkers := markersIn_add (b.line + 1) k b.body
    rw [Nat.add_right_comm] at hmarkers
    simp only [ofBlock, Block.numbered, hmarkers]
    rfl
  rw [inLines, Block.all, Block.cut_add, List.map_map, inLines, List.map_map]
  exact List.map_congr_left fun b _ => hblock b

end Requirement

end SpecReview
