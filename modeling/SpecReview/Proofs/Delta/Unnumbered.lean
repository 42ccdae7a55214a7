import SpecReview.Proofs.Delta.Rewriting

/-! # Deltas up to line numbers

What is declared on a line does not depend on the number of the line, and neither does what a
review finds in it: taking the numbers off a delta takes them off the findings and changes nothing
else. -/

namespace SpecReview

open Text

/-! ## Values without line numbers -/

def Marker.unnumbered (m : Marker) : Marker :=
  { m with line := 0 }

namespace Requirement

def unnumbered (r : Requirement) : Requirement :=
  { r with line := 0, markers := r.markers.map (·.unnumbered) }

end Requirement

namespace Rename

def unnumbered (r : Rename) : Rename :=
  { r with line := 0 }

end Rename

/-- A section without its line number, and with its entries as they are made. -/
def Declared.unnumbered {α : Type} (entry : α → α) (s : Declared α) : Declared α where
  line := 0
  entries := s.entries.map entry

def Delta.unnumbered (d : Delta) : Delta where
  added := d.added.map (·.unnumbered Requirement.unnumbered)
  modified := d.modified.map (·.unnumbered Requirement.unnumbered)
  removed := d.removed.map (·.unnumbered Requirement.unnumbered)
  renamed := d.renamed.map (·.unnumbered Rename.unnumbered)

def Fault.unnumbered : Fault → Fault
  | .malformedScenario m => .malformedScenario m.unnumbered
  | f => f

def DeltaFinding.unnumbered : DeltaFinding → DeltaFinding
  | .emptySection op _ => .emptySection op 0
  | .fault op r f => .fault op r.unnumbered f.unnumbered
  | .collision op r c => .collision op r.unnumbered c
  | .incomplete r => .incomplete r.unnumbered
  | .renameCollision side r c => .renameCollision side r.unnumbered c
  | .conflict c r => .conflict c r.unnumbered

/-- An issue that has a line keeps having one. -/
def Issue.unnumbered (i : Issue) : Issue :=
  { i with line := i.line.map fun _ => 0 }

/-! ## Reading -/

namespace Requirement

theorem unnumbered_down (k : Nat) (r : Requirement) :
    ((Rewriting.down k).requirement r).unnumbered = r.unnumbered := by
  simp only [unnumbered, Rewriting.requirement, List.map_map]
  rfl

/-- What is cut out of lines does not depend on their numbers. -/
theorem map_unnumbered_inLines (n m : Nat) (ls : List (List Char)) :
    (inLines n ls).map (·.unnumbered) = (inLines m ls).map (·.unnumbered) := by
  have hdown (k : Nat) :
      (inLines k ls).map (·.unnumbered) = (inLines 0 ls).map (·.unnumbered) := by
    rw [← Nat.zero_add k, inLines_add, List.map_map]
    exact List.map_congr_left fun r _ => unnumbered_down k r
  exact (hdown n).trans (hdown m).symm

end Requirement

namespace Rename

/-- Who waits for a new name goes by the old name, wherever that stands. -/
theorem map_unnumbered_pair (waiting waiting' : Option (String × Nat))
    (h : waiting.map (·.1) = waiting'.map (·.1)) (n m : Nat) (ls : List (List Char)) :
    (pair waiting (numberFrom n ls)).map (·.unnumbered) =
      (pair waiting' (numberFrom m ls)).map (·.unnumbered) := by
  induction ls generalizing waiting waiting' n m with
  | nil => cases waiting <;> cases waiting' <;> simp_all [numberFrom, pair, unnumbered]
  | cons l ls ih =>
      rw [numberFrom, numberFrom, pair, pair]
      cases source? l with
      | some name =>
          have hrest := ih (some (name, n)) (some (name, m)) rfl (n + 1) (m + 1)
          cases waiting <;> cases waiting' <;> simp_all [unnumbered]
      | none =>
          cases target? l with
          | some name =>
              have hrest := ih none none rfl (n + 1) (m + 1)
              cases waiting <;> cases waiting' <;> simp_all [unnumbered]
          | none => exact ih waiting waiting' h (n + 1) (m + 1)

theorem map_unnumbered_inLines (n m : Nat) (ls : List (List Char)) :
    (inLines (numberFrom n ls)).map (·.unnumbered) =
      (inLines (numberFrom m ls)).map (·.unnumbered) :=
  map_unnumbered_pair none none rfl n m ls

end Rename

namespace Delta

theorem map_unnumbered_requirementsOf (op : Operation) (ss : List Section) :
    (requirementsOf op ss).map (·.unnumbered Requirement.unnumbered) =
      ((sectionOf op ss).map (·.lines)).map fun ls =>
        ⟨0, (Requirement.inLines 1 ls).map (·.unnumbered)⟩ := by
  rw [requirementsOf, Option.map_map, Option.map_map]
  refine Option.map_congr fun s _ => ?_
  exact congrArg (Declared.mk 0) (Requirement.map_unnumbered_inLines (s.line + 1) 1 s.lines)

/-- But for its numbers, a delta goes by the lines below the headings of the four operations. -/
theorem unnumbered_ofText_congr {text text' : String}
    (h : ∀ op, (sectionOf op (Section.inText text)).map (·.lines) =
      (sectionOf op (Section.inText text')).map (·.lines)) :
    (ofText text).unnumbered = (ofText text').unnumbered := by
  have hrenamed (text : String) :
      (ofText text).renamed.map (·.unnumbered Rename.unnumbered) =
        ((sectionOf .renamed (Section.inText text)).map (·.lines)).map fun ls =>
          ⟨0, (Rename.inLines (numberFrom 1 ls)).map (·.unnumbered)⟩ := by
    rw [renamed_ofText, Option.map_map, Option.map_map]
    refine Option.map_congr fun s _ => ?_
    exact congrArg (Declared.mk 0) (Rename.map_unnumbered_inLines (s.line + 1) 1 s.lines)
  simp only [unnumbered, hrenamed, added_ofText, modified_ofText, removed_ofText,
    map_unnumbered_requirementsOf, h]

end Delta

/-! ## Review -/

/-- Every line gets the number zero. -/
def Rewriting.unnumbered : Rewriting :=
  renumber fun _ => 0

namespace Delta

theorem delta_unnumbered (d : Delta) : Rewriting.unnumbered.delta d = d.unnumbered := rfl

/-- The findings in a delta are those in the delta without its numbers, but for their numbers. -/
theorem findings_unnumbered (ledger : Ledger) (file : Path) (d : Delta) :
    d.unnumbered.findings ledger file = (d.findings ledger file).map (·.unnumbered) := by
  have hfinding : Rewriting.unnumbered.finding = DeltaFinding.unnumbered := by
    funext f
    cases f with
    | fault op r f => cases f <;> rfl
    | emptySection op line => rfl
    | collision op r c => rfl
    | incomplete r => rfl
    | renameCollision side r c => rfl
    | conflict c r => rfl
  rw [← delta_unnumbered, Rewriting.unnumbered.findings_delta ledger file fun _ _ => rfl, hfinding]

theorem claims_unnumbered (d : Delta) : d.unnumbered.claims = d.claims :=
  Rewriting.unnumbered.claims_delta fun _ _ => rfl

end Delta

theorem DeltaFinding.toIssue_unnumbered (file : Path) (f : DeltaFinding) :
    (f.unnumbered.toIssue file).unnumbered = (f.toIssue file).unnumbered := by
  cases f with
  | fault op r f => cases f <;> rfl
  | collision op r c => cases c <;> rfl
  | renameCollision side r c => cases side <;> cases c <;> rfl
  | conflict c r => rfl
  | emptySection op line => rfl
  | incomplete r => rfl

namespace Delta

/-- Deltas that differ in line numbers are reviewed alike. -/
theorem review_congr {d d' : Delta} (h : d.unnumbered = d'.unnumbered) (ledger : Ledger)
    (file : Path) :
    (d.review ledger file).1.map (·.unnumbered) = (d'.review ledger file).1.map (·.unnumbered) ∧
      (d.review ledger file).2 = (d'.review ledger file).2 := by
  have hissues (e : Delta) : (e.review ledger file).1.map (·.unnumbered) =
      (e.unnumbered.findings ledger file).map fun f => (f.toIssue file).unnumbered := by
    rw [review, findings_unnumbered, List.map_map, List.map_map]
    exact List.map_congr_left fun f _ => (f.toIssue_unnumbered file).symm
  have hledger (e : Delta) : (e.review ledger file).2 =
      ledger.recordAll file e.unnumbered.claims := by
    rw [review, claims_unnumbered]
  rw [hissues, hissues, hledger, hledger, h]
  exact ⟨rfl, rfl⟩

/-- What is in the way of a merge does not depend on where the delta declares it. -/
theorem obstacle?_unnumbered (d : Delta) (base : Option String) :
    d.unnumbered.obstacle? base = d.obstacle? base := by
  have hobstacle : Rewriting.unnumbered.obstacle = id := by
    funext o
    cases o <;> rfl
  rw [← delta_unnumbered, Rewriting.unnumbered.obstacle?_delta (fun _ _ => rfl), hobstacle,
    Option.map_id, id]

end Delta

end SpecReview
