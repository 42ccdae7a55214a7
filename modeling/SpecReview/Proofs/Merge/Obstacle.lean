import SpecReview.Merge

/-! # What stands in the way of a merge

An entry of a delta is held against the names of the base spec by a rule of its own kind. The
obstacle to a merge is that of the first entry that breaks its rule. -/

namespace SpecReview

/-- A base spec allows a rename if it has the old name, and the new one only if that is the old
one in another spelling. -/
def Rename.Legal (existing : List String) (r : Rename) : Prop :=
  r.sourceKey ∈ existing ∧ (r.targetKey ∈ existing → r.targetKey = r.sourceKey)

namespace Requirement

/-- The canonical names of the requirements in a text. -/
def keysInText (text : String) : List String :=
  (inText text).map (·.key)

end Requirement

namespace Delta

/-- An entry of a delta along with what the delta does with it. -/
inductive Entry where
  | modify (r : Requirement)
  | remove (r : Requirement)
  | rename (r : Rename)
  | add (r : Requirement)

/-- The entries of a delta in the order in which they are held against the base spec. -/
def entries (d : Delta) : List Entry :=
  (d.requirements .modified).map .modify ++ (d.requirements .removed).map .remove
    ++ d.completeRenames.map .rename ++ (d.requirements .added).map .add

/-- A requirement to modify may go by the new name of a legal rename. -/
def MayModify (existing : List String) (d : Delta) (r : Requirement) : Prop :=
  r.key ∈ existing ∨ ∃ p ∈ d.completeRenames, p.Legal existing ∧ p.targetKey = r.key

/-- The rule of each kind of entry. -/
def Entry.Allowed (existing : List String) (d : Delta) : Entry → Prop
  | .modify r => MayModify existing d r
  | .remove r => r.key ∈ existing
  | .rename p => p.Legal existing
  | .add r => r.key ∉ existing

/-- How an entry breaks its rule, and the obstacle that it is then. A source that is missing
goes before a target that is taken. -/
inductive Violation (existing : List String) (d : Delta) : Entry → Obstacle → Prop where
  | modified {r} (h : ¬ MayModify existing d r) :
      Violation existing d (.modify r) (.modifiedMissing r.name)
  | removed {r} (h : r.key ∉ existing) :
      Violation existing d (.remove r) (.removedMissing r.name)
  | source {p} (h : p.sourceKey ∉ existing) :
      Violation existing d (.rename p) (.renameSourceMissing p.source)
  | target {p} (hs : p.sourceKey ∈ existing) (ht : p.targetKey ∈ existing)
      (hne : p.targetKey ≠ p.sourceKey) :
      Violation existing d (.rename p) (.renameTargetTaken p.source p.target)
  | added {r} (h : r.key ∈ existing) :
      Violation existing d (.add r) (.alreadyExists r.name)

/-! ## One entry -/

/-- The new names that a requirement to modify may go by, of which the code asks only that the
old name exists. -/
def renamedNames (existing : List String) (d : Delta) : List String :=
  (d.completeRenames.filter (·.sourceKey ∈ existing)).map (·.targetKey)

/-- The looser condition on renames accepts no other requirement: a rename whose target is taken
has a target that exists. -/
theorem mem_or_mem_renamedNames_iff {existing : List String} {d : Delta} {r : Requirement} :
    r.key ∈ existing ∨ r.key ∈ renamedNames existing d ↔ MayModify existing d r := by
  unfold MayModify
  constructor
  · rintro (h | h)
    · exact Or.inl h
    · obtain ⟨p, hp, hkey⟩ := List.mem_map.mp h
      obtain ⟨hp, hs⟩ := List.mem_filter.mp hp
      by_cases ht : p.targetKey ∈ existing
      · exact Or.inl (hkey ▸ ht)
      · exact Or.inr ⟨p, hp, ⟨by simpa using hs, fun h => absurd h ht⟩, hkey⟩
  · rintro (h | ⟨p, hp, hlegal, hkey⟩)
    · exact Or.inl h
    · refine Or.inr (List.mem_map.mpr ⟨p, List.mem_filter.mpr ⟨hp, ?_⟩, hkey⟩)
      simpa using hlegal.1

/-- The obstacle that an entry is by itself. -/
def Entry.obstacle? (existing : List String) (d : Delta) : Entry → Option Obstacle
  | .modify r =>
    if r.key ∈ existing ∨ r.key ∈ renamedNames existing d then none
    else some (.modifiedMissing r.name)
  | .remove r => if r.key ∈ existing then none else some (.removedMissing r.name)
  | .rename p => renameObstacle? existing p
  | .add r => if r.key ∈ existing then some (.alreadyExists r.name) else none

theorem renameObstacle?_eq_none_iff {existing : List String} {p : Rename} :
    renameObstacle? existing p = none ↔ p.Legal existing := by
  unfold renameObstacle? Rename.Legal
  by_cases hs : p.sourceKey ∈ existing
  · by_cases ht : p.targetKey ∈ existing <;> by_cases hne : p.targetKey = p.sourceKey <;>
      simp [hs, ht, hne]
  · simp [hs]

theorem Entry.obstacle?_eq_none_iff {existing : List String} {d : Delta} {e : Entry} :
    e.obstacle? existing d = none ↔ e.Allowed existing d := by
  cases e with
  | modify r =>
      rw [obstacle?, Allowed, ← mem_or_mem_renamedNames_iff]
      split <;> simp_all
  | remove r => simp [obstacle?, Allowed]
  | rename p => exact renameObstacle?_eq_none_iff
  | add r => simp [obstacle?, Allowed]

theorem Entry.obstacle?_eq_some_iff {existing : List String} {d : Delta} {e : Entry}
    {o : Obstacle} : e.obstacle? existing d = some o ↔ Violation existing d e o := by
  constructor
  · intro h
    cases e with
    | modify r =>
        rw [obstacle?] at h
        split at h
        · cases h
        · rename_i hm
          cases h
          exact .modified (mt mem_or_mem_renamedNames_iff.mpr hm)
    | remove r =>
        rw [obstacle?] at h
        split at h
        · cases h
        · rename_i hr
          cases h
          exact .removed hr
    | rename p =>
        rw [obstacle?, renameObstacle?] at h
        split at h
        · rename_i hs
          cases h
          exact .source hs
        · rename_i hs
          split at h
          · rename_i ht
            cases h
            exact .target (Decidable.not_not.mp hs) ht.2 ht.1
          · cases h
    | add r =>
        rw [obstacle?] at h
        split at h
        · rename_i ha
          cases h
          exact .added ha
        · cases h
  · intro h
    cases h with
    | modified h => rw [obstacle?, if_neg (mt mem_or_mem_renamedNames_iff.mp h)]
    | removed h => simp [obstacle?, h]
    | source h => simp [obstacle?, renameObstacle?, h]
    | target hs ht hne => simp [obstacle?, renameObstacle?, hs, ht, hne]
    | added h => simp [obstacle?, h]

/-! ## All entries -/

/-- The four scans of a delta are one scan of its entries. -/
theorem obstacleAmong?_eq_findSome? (existing : List String) (d : Delta) :
    d.obstacleAmong? existing = d.entries.findSome? (·.obstacle? existing d) := by
  simp only [obstacleAmong?, entries, List.findSome?_append, List.findSome?_map,
    Option.orElse_eq_orElse, Option.orElse_eq_or, Option.or_assoc]
  rfl

theorem obstacleAmong?_eq_some_iff {existing : List String} {d : Delta} {o : Obstacle} :
    d.obstacleAmong? existing = some o ↔
      ∃ before e after, d.entries = before ++ e :: after ∧
        (∀ x ∈ before, x.Allowed existing d) ∧ Violation existing d e o := by
  rw [obstacleAmong?_eq_findSome?, List.findSome?_eq_some_iff]
  simp only [Entry.obstacle?_eq_none_iff, Entry.obstacle?_eq_some_iff]
  constructor
  · rintro ⟨before, e, after, he, hv, hb⟩
    exact ⟨before, e, after, he, hb, hv⟩
  · rintro ⟨before, e, after, he, hb, hv⟩
    exact ⟨before, e, after, he, hv, hb⟩

theorem obstacleAmong?_eq_none_iff {existing : List String} {d : Delta} :
    d.obstacleAmong? existing = none ↔
      (∀ r ∈ d.requirements .modified, MayModify existing d r) ∧
      (∀ r ∈ d.requirements .removed, r.key ∈ existing) ∧
      (∀ p ∈ d.completeRenames, p.Legal existing) ∧
      ∀ r ∈ d.requirements .added, r.key ∉ existing := by
  rw [obstacleAmong?_eq_findSome?, List.findSome?_eq_none_iff]
  simp only [Entry.obstacle?_eq_none_iff, entries, List.mem_append, List.mem_map, or_imp,
    forall_and, forall_exists_index, and_imp, forall_apply_eq_imp_iff₂, Entry.Allowed, and_assoc]

/-! ## No base spec -/

theorem obstacleWithoutBase?_eq_none_iff {d : Delta} :
    d.obstacleWithoutBase? = none ↔
      d.requirements .modified = [] ∧ d.requirements .removed = [] ∧ d.completeRenames = [] := by
  unfold obstacleWithoutBase?
  cases d.requirements .modified <;> cases d.requirements .removed <;>
    cases d.completeRenames <;> simp

/-- The obstacle names the first operation that there is besides additions. -/
theorem obstacleWithoutBase?_eq_some_iff {d : Delta} {o : Obstacle} :
    d.obstacleWithoutBase? = some o ↔
      (d.requirements .modified ≠ [] ∧ o = .noBase .modified) ∨
      (d.requirements .modified = [] ∧ d.requirements .removed ≠ [] ∧ o = .noBase .removed) ∨
      (d.requirements .modified = [] ∧ d.requirements .removed = [] ∧ d.completeRenames ≠ [] ∧
        o = .noBase .renamed) := by
  unfold obstacleWithoutBase?
  cases d.requirements .modified <;> cases d.requirements .removed <;>
    cases d.completeRenames <;> simp [eq_comm]

/-! ## The obstacle to a merge -/

/-- Against a base spec a delta meets no obstacle exactly if every entry keeps its rule, and else
that of the first entry that breaks it. Without one it may only add. -/
theorem obstacle?_eq_first_violation (d : Delta) :
    (∀ base, d.obstacle? (some base) = none ↔
      (∀ r ∈ d.requirements .modified, r.key ∈ Requirement.keysInText base ∨
        ∃ p ∈ d.completeRenames, p.Legal (Requirement.keysInText base) ∧ p.targetKey = r.key) ∧
      (∀ r ∈ d.requirements .removed, r.key ∈ Requirement.keysInText base) ∧
      (∀ p ∈ d.completeRenames, p.Legal (Requirement.keysInText base)) ∧
      ∀ r ∈ d.requirements .added, r.key ∉ Requirement.keysInText base) ∧
    (∀ base o, d.obstacle? (some base) = some o ↔
      ∃ before e after, d.entries = before ++ e :: after ∧
        (∀ x ∈ before, x.Allowed (Requirement.keysInText base) d) ∧
        Violation (Requirement.keysInText base) d e o) ∧
    (d.obstacle? none = none ↔
      d.requirements .modified = [] ∧ d.requirements .removed = [] ∧ d.completeRenames = []) ∧
    ∀ o, d.obstacle? none = some o ↔
      (d.requirements .modified ≠ [] ∧ o = .noBase .modified) ∨
      (d.requirements .modified = [] ∧ d.requirements .removed ≠ [] ∧ o = .noBase .removed) ∨
      (d.requirements .modified = [] ∧ d.requirements .removed = [] ∧ d.completeRenames ≠ [] ∧
        o = .noBase .renamed) :=
  ⟨fun _ => obstacleAmong?_eq_none_iff, fun _ _ => obstacleAmong?_eq_some_iff,
    obstacleWithoutBase?_eq_none_iff, fun _ => obstacleWithoutBase?_eq_some_iff⟩

end Delta

end SpecReview
