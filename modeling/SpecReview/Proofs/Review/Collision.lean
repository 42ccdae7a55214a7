import Mathlib.Data.Finset.Card
import Mathlib.Tactic.Common
import SpecReview.Review.Delta

/-! # Collisions of names in one delta

In each role a delta declares a list of canonical names. Each name of the list either collides,
with an earlier one or with another file, or is new; the new ones are counted once each. -/

namespace SpecReview

/-- The role in which an operation declares the names of its requirements. -/
def Operation.role : Operation → Role
  | .added => .added
  | .modified => .modified
  | .removed => .removed
  | .renamed => .renameSource

namespace Side

def role : Side → Role
  | .source => .renameSource
  | .target => .renameTarget

def key (r : Rename) : Side → String
  | .source => r.sourceKey
  | .target => r.targetKey

end Side

namespace DeltaFinding

/-- The name and the kind of a collision in the given role. -/
def collisionIn? (role : Role) : DeltaFinding → Option (String × Collision)
  | .collision op r c => if op.role = role then some (r.key, c) else none
  | .renameCollision side r c => if side.role = role then some (side.key r, c) else none
  | _ => none

theorem filterMap_fault (role : Role) (op : Operation) (r : Requirement) (fs : List Fault) :
    (fs.map (fault op r)).filterMap (collisionIn? role) = [] := by
  simp [List.filterMap_map, List.filterMap_eq_nil_iff, collisionIn?]

theorem filterMap_collision (role : Role) (op : Operation) (r : Requirement)
    (cs : List Collision) :
    (cs.map (collision op r)).filterMap (collisionIn? role) =
      if op.role = role then cs.map (r.key, ·) else [] := by
  by_cases h : op.role = role <;>
    simp [List.filterMap_map, Function.comp_def, collisionIn?, h]

theorem filterMap_renameCollision (role : Role) (side : Side) (r : Rename)
    (cs : List Collision) :
    (cs.map (renameCollision side r)).filterMap (collisionIn? role) =
      if side.role = role then cs.map (side.key r, ·) else [] := by
  by_cases h : side.role = role <;>
    simp [List.filterMap_map, Function.comp_def, collisionIn?, h]

theorem filterMap_conflict (role : Role) (c : Conflict) (rs : List Requirement) :
    (rs.map (conflict c)).filterMap (collisionIn? role) = [] := by
  simp [List.filterMap_map, List.filterMap_eq_nil_iff, collisionIn?]

/-- A message on a collision with another file ends with the two files. -/
theorem message_of_collisionIn? {role : Role} {f : DeltaFinding} {name : String} {other : Path}
    (h : f.collisionIn? role = some (name, .alsoIn other)) (file : Path) :
    ∃ start, f.message file =
      start ++ " in multiple files: " ++ other.text ++ " and " ++ file.text := by
  cases f with
  | collision op r c =>
      simp only [collisionIn?, Option.ite_none_right_eq_some, Option.some.injEq,
        Prod.mk.injEq] at h
      obtain ⟨-, -, rfl⟩ := h
      exact ⟨"Requirement \"" ++ r.name ++ "\" is " ++ op.keyword, rfl⟩
  | renameCollision side r c =>
      simp only [collisionIn?, Option.ite_none_right_eq_some, Option.some.injEq,
        Prod.mk.injEq] at h
      obtain ⟨-, -, rfl⟩ := h
      have hmessage : (renameCollision side r (.alsoIn other)).message file =
          "Requirement \"" ++ side.name r ++ "\" is RENAMED (" ++ side.label
            ++ ") in multiple files: " ++ other.text ++ " and " ++ file.text := rfl
      have hsplit : ") in multiple files: " = ")" ++ " in multiple files: " := by decide +kernel
      refine ⟨"Requirement \"" ++ side.name r ++ "\" is RENAMED (" ++ side.label ++ ")", ?_⟩
      rw [hmessage, hsplit, ← String.append_assoc]
  | emptySection op line => cases h
  | fault op r fault => cases h
  | incomplete r => cases h
  | conflict c r => cases h

end DeltaFinding

namespace Delta

/-- The canonical names that a delta declares in a role, repeats included. -/
def keys (d : Delta) : Role → List String
  | .added => (d.requirements .added).map (·.key)
  | .modified => (d.requirements .modified).map (·.key)
  | .removed => (d.requirements .removed).map (·.key)
  | .renameSource => d.completeRenames.map (·.sourceKey)
  | .renameTarget => d.completeRenames.map (·.targetKey)

theorem mem_claims_iff {d : Delta} {role : Role} {name : String} :
    ⟨role, name⟩ ∈ d.claims ↔ name ∈ d.keys role := by
  cases role <;> simp [claims, keys, eq_comm]

/-! ## Names one after the other -/

/-- The collisions of names that a file declares one after the other, after the earlier ones. -/
def collisionsOf (ledger : Ledger) (file : Path) (role : Role) :
    List String → List String → List (String × Collision)
  | _, [] => []
  | earlier, n :: ns =>
    (collision? ledger file earlier ⟨role, n⟩).toList.map (n, ·)
      ++ collisionsOf ledger file role (n :: earlier) ns

variable {ledger : Ledger} {file : Path} {role : Role}

theorem collision?_eq_none_iff {earlier : List String} {c : Claim} :
    collision? ledger file earlier c = none ↔
      c.name ∉ earlier ∧ ledger.otherHolder? file c = none := by
  unfold collision?
  split <;> simp_all

/-- Names collide nowhere if they are distinct, and neither declared earlier nor elsewhere. -/
theorem collisionsOf_eq_nil_iff {earlier ns : List String} :
    collisionsOf ledger file role earlier ns = [] ↔
      ns.Nodup ∧ ∀ n ∈ ns, n ∉ earlier ∧ ledger.otherHolder? file ⟨role, n⟩ = none := by
  induction ns generalizing earlier with
  | nil => simp [collisionsOf]
  | cons n ns ih =>
      rw [collisionsOf, List.append_eq_nil_iff, List.map_eq_nil_iff, Option.toList_eq_nil_iff,
        collision?_eq_none_iff, ih, List.nodup_cons]
      constructor
      · rintro ⟨hn, hnodup, hns⟩
        have hnew : n ∉ ns := fun h => (hns n h).1 (by simp)
        refine ⟨⟨hnew, hnodup⟩, ?_⟩
        intro m hm
        rcases List.mem_cons.mp hm with rfl | hm
        · exact hn
        · exact ⟨fun h => (hns m hm).1 (List.mem_cons_of_mem n h), (hns m hm).2⟩
      · rintro ⟨⟨hnew, hnodup⟩, hall⟩
        refine ⟨hall n (by simp), hnodup, ?_⟩
        intro m hm
        obtain ⟨hearlier, hother⟩ := hall m (List.mem_cons_of_mem n hm)
        refine ⟨?_, hother⟩
        rw [List.mem_cons, not_or]
        exact ⟨fun h => hnew (h ▸ hm), hearlier⟩

/-- The names that no earlier entry and no other file declares. -/
def newNames (ledger : Ledger) (file : Path) (role : Role) (earlier ns : List String) :
    Finset String :=
  ns.toFinset.filter fun n => n ∉ earlier ∧ ledger.otherHolder? file ⟨role, n⟩ = none

theorem newNames_cons_of_collision {earlier ns : List String} {n : String}
    (h : ¬ (n ∉ earlier ∧ ledger.otherHolder? file ⟨role, n⟩ = none)) :
    newNames ledger file role earlier (n :: ns) =
      newNames ledger file role (n :: earlier) ns := by
  ext m
  simp only [newNames, Finset.mem_filter, List.mem_toFinset, List.mem_cons, not_or]
  constructor
  · rintro ⟨rfl | hm, hearlier, hother⟩
    · exact absurd ⟨hearlier, hother⟩ h
    · refine ⟨hm, ⟨?_, hearlier⟩, hother⟩
      rintro rfl
      exact h ⟨hearlier, hother⟩
  · rintro ⟨hm, ⟨_, hearlier⟩, hother⟩
    exact ⟨Or.inr hm, hearlier, hother⟩

theorem newNames_cons_of_no_collision {earlier ns : List String} {n : String}
    (h : n ∉ earlier ∧ ledger.otherHolder? file ⟨role, n⟩ = none) :
    newNames ledger file role earlier (n :: ns) =
      insert n (newNames ledger file role (n :: earlier) ns) := by
  ext m
  simp only [newNames, Finset.mem_filter, List.mem_toFinset, List.mem_cons, not_or,
    Finset.mem_insert]
  by_cases hm : m = n
  · simp [hm, h]
  · simp [hm]

/-- Each name either collides or is new. -/
theorem length_collisionsOf (earlier ns : List String) :
    (collisionsOf ledger file role earlier ns).length +
      (newNames ledger file role earlier ns).card = ns.length := by
  induction ns generalizing earlier with
  | nil => simp [collisionsOf, newNames]
  | cons n ns ih =>
      have ih := ih (n :: earlier)
      rw [collisionsOf, List.length_append, List.length_map, List.length_cons]
      by_cases h : n ∉ earlier ∧ ledger.otherHolder? file ⟨role, n⟩ = none
      · have hnotMem : n ∉ newNames ledger file role (n :: earlier) ns := by simp [newNames]
        rw [newNames_cons_of_no_collision h, Finset.card_insert_of_notMem hnotMem,
          collision?_eq_none_iff.mpr h, Option.toList_none, List.length_nil]
        omega
      · have hsome : collision? ledger file earlier ⟨role, n⟩ ≠ none :=
          mt collision?_eq_none_iff.mp h
        obtain ⟨c, hc⟩ := Option.ne_none_iff_exists'.mp hsome
        rw [newNames_cons_of_collision h, hc, Option.toList_some, List.length_singleton]
        omega

/-- A collision with another file names the holder of the claim. -/
theorem holder?_of_mem_collisionsOf {earlier ns : List String} {n : String} {other : Path}
    (h : (n, .alsoIn other) ∈ collisionsOf ledger file role earlier ns) :
    ledger.holder? ⟨role, n⟩ = some other := by
  induction ns generalizing earlier with
  | nil => simp [collisionsOf] at h
  | cons m ns ih =>
      rw [collisionsOf, List.mem_append] at h
      rcases h with h | h
      · simp only [List.mem_map, Option.mem_toList, Prod.mk.injEq] at h
        obtain ⟨c, hc, rfl, rfl⟩ := h
        unfold collision? at hc
        split at hc
        · simp at hc
        · simp only [Option.map_eq_some_iff, Collision.alsoIn.injEq,
            exists_eq_right] at hc
          exact (Option.filter_eq_some_iff.mp hc).1
      · exact ih h

/-! ## The collisions among the findings on a delta -/

theorem filterMap_requirementFindings (op : Operation) (role other : Role)
    (earlier : List String) (rs : List Requirement) :
    (requirementFindings ledger file op role earlier rs).filterMap
        (DeltaFinding.collisionIn? other) =
      if op.role = other then collisionsOf ledger file role earlier (rs.map (·.key)) else [] := by
  induction rs generalizing earlier with
  | nil => simp [requirementFindings, collisionsOf]
  | cons r rs ih =>
      have hfaults : (if op = .removed then [] else r.faults.map (.fault op r)).filterMap
          (DeltaFinding.collisionIn? other) = [] := by
        split
        · rfl
        · exact DeltaFinding.filterMap_fault other op r r.faults
      rw [requirementFindings, List.filterMap_append, List.filterMap_append, hfaults,
        DeltaFinding.filterMap_collision, ih, List.map_cons, collisionsOf]
      by_cases h : op.role = other <;> simp [h]

/-- A rename declares a name in each of two roles, side by side. -/
theorem filterMap_renameFindings (other : Role) (sources targets : List String)
    (rs : List Rename) :
    (renameFindings ledger file sources targets rs).filterMap
        (DeltaFinding.collisionIn? other) =
      match other with
      | .renameSource => collisionsOf ledger file .renameSource sources
          ((rs.filter (·.isComplete)).map (·.sourceKey))
      | .renameTarget => collisionsOf ledger file .renameTarget targets
          ((rs.filter (·.isComplete)).map (·.targetKey))
      | _ => [] := by
  induction rs generalizing sources targets with
  | nil => cases other <;> rfl
  | cons r rs ih =>
      rw [renameFindings]
      by_cases hr : r.isComplete
      · rw [if_pos hr, List.filterMap_append, List.filterMap_append,
          DeltaFinding.filterMap_renameCollision, DeltaFinding.filterMap_renameCollision, ih,
          List.filter_cons_of_pos hr]
        cases other <;> simp [collisionsOf, Side.role, Side.key]
      · rw [if_neg hr, List.filterMap_cons_none rfl, ih, List.filter_cons_of_neg hr]

theorem filterMap_sectionFindings {α : Type} (op : Operation) (other : Role)
    (findings : List α → List DeltaFinding) (s : Option (Declared α))
    (h : (findings []).filterMap (DeltaFinding.collisionIn? other) = []) :
    (sectionFindings op findings s).filterMap (DeltaFinding.collisionIn? other) =
      (findings ((s.map (·.entries)).getD [])).filterMap (DeltaFinding.collisionIn? other) := by
  cases s with
  | none => simp [sectionFindings, h]
  | some s =>
      cases hs : s.entries with
      | nil => simp [sectionFindings, hs, h, DeltaFinding.collisionIn?]
      | cons e es => simp [sectionFindings, hs]

/-- The collisions that a review finds are those of the names that the delta declares. -/
theorem filterMap_findings (d : Delta) (other : Role) :
    (d.findings ledger file).filterMap (DeltaFinding.collisionIn? other) =
      collisionsOf ledger file other [] (d.keys other) := by
  have hconflicts : (Conflict.all.flatMap fun c => (d.conflicting c).map
      (DeltaFinding.conflict c)).filterMap (DeltaFinding.collisionIn? other) = [] := by
    simp only [List.filterMap_flatMap, DeltaFinding.filterMap_conflict, List.flatMap_eq_nil_iff,
      implies_true]
  have hnil (op : Operation) (role : Role) :
      (requirementFindings ledger file op role [] []).filterMap
        (DeltaFinding.collisionIn? other) = [] := rfl
  rw [findings, List.filterMap_append, List.filterMap_append, List.filterMap_append,
    List.filterMap_append, hconflicts, filterMap_sectionFindings _ _ _ _ (hnil _ _),
    filterMap_sectionFindings _ _ _ _ (hnil _ _), filterMap_sectionFindings _ _ _ _ (hnil _ _),
    filterMap_sectionFindings _ _ _ _ rfl]
  simp only [filterMap_requirementFindings, filterMap_renameFindings]
  cases other <;> simp [Operation.role, keys, requirements, completeRenames, renames]

/-- The other file of a collision is the holder of the claim. -/
theorem holder?_of_collisionIn? {d : Delta} {f : DeltaFinding} {name : String} {other : Path}
    (hf : f ∈ d.findings ledger file) (h : f.collisionIn? role = some (name, .alsoIn other)) :
    ledger.holder? ⟨role, name⟩ = some other := by
  have hmem : (name, .alsoIn other) ∈ collisionsOf ledger file role [] (d.keys role) := by
    rw [← filterMap_findings]
    exact List.mem_filterMap.mpr ⟨f, hf, h⟩
  exact holder?_of_mem_collisionsOf hmem

end Delta

end SpecReview
