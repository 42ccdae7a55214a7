import SpecReview.Proofs.Merge.Obstacle
import SpecReview.Proofs.Review.Clean

/-! # Carrying out a merge

A merge changes the names of a base spec step by step. Renames come first, then removals,
modifications and additions. A delta without issues and obstacles gets through all of its steps,
unless it removes a requirement that it also gives another name. -/

namespace SpecReview

/-- A step of a merge on the canonical names of a spec. -/
inductive MergeStep where
  | leave (name : String)
  | stay (name : String)
  | enter (name : String)

namespace MergeStep

/-- The names after a step. A name that leaves or stays has to be there, and one that enters must
not be. -/
def next? (names : Finset String) : MergeStep → Option (Finset String)
  | .leave n => if n ∈ names then some (names.erase n) else none
  | .stay n => if n ∈ names then some names else none
  | .enter n => if n ∈ names then none else some (insert n names)

/-- The names after steps in order, provided that none of them fails. -/
def run? (names : Finset String) (steps : List MergeStep) : Option (Finset String) :=
  steps.foldlM next? names

def ofRename (r : Rename) : List MergeStep :=
  [.leave r.sourceKey, .enter r.targetKey]

theorem run?_cons (names : Finset String) (s : MergeStep) (ss : List MergeStep) :
    run? names (s :: ss) = (next? names s).bind (run? · ss) :=
  List.foldlM_cons

theorem run?_append (names : Finset String) (ss ts : List MergeStep) :
    run? names (ss ++ ts) = (run? names ss).bind (run? · ts) :=
  List.foldlM_append

/-! ## Steps of one kind -/

/-- Distinct names can leave if all of them are there. -/
theorem run?_map_leave {ns : List String} (h : ns.Nodup) (names : Finset String) :
    run? names (ns.map .leave) =
      if ∀ n ∈ ns, n ∈ names then some (names \ ns.toFinset) else none := by
  induction ns generalizing names with
  | nil => simp [run?]
  | cons n ns ih =>
      obtain ⟨hn, hns⟩ := List.nodup_cons.mp h
      rw [List.map_cons, run?_cons, next?]
      by_cases hmem : n ∈ names
      · have herase : (∀ m ∈ ns, m ∈ names.erase n) ↔ ∀ m ∈ ns, m ∈ names := by
          refine forall₂_congr fun m hm => ?_
          rw [Finset.mem_erase]
          exact and_iff_right (fun he => hn (he ▸ hm))
        have hsdiff : names.erase n \ ns.toFinset = names \ (n :: ns).toFinset := by
          rw [List.toFinset_cons, Finset.erase_sdiff_comm, Finset.sdiff_insert]
        rw [if_pos hmem, Option.bind_some, ih hns]
        simp only [herase, hsdiff, List.forall_mem_cons, hmem, true_and]
      · simp [hmem]

theorem run?_map_stay (names : Finset String) (ns : List String) :
    run? names (ns.map .stay) = if ∀ n ∈ ns, n ∈ names then some names else none := by
  induction ns with
  | nil => simp [run?]
  | cons n ns ih =>
      rw [List.map_cons, run?_cons, next?]
      by_cases hmem : n ∈ names <;> simp [hmem, ih]

/-- Distinct names can enter if none of them is there. -/
theorem run?_map_enter {ns : List String} (h : ns.Nodup) (names : Finset String) :
    run? names (ns.map .enter) =
      if ∀ n ∈ ns, n ∉ names then some (names ∪ ns.toFinset) else none := by
  induction ns generalizing names with
  | nil => simp [run?]
  | cons n ns ih =>
      obtain ⟨hn, hns⟩ := List.nodup_cons.mp h
      rw [List.map_cons, run?_cons, next?]
      by_cases hmem : n ∈ names
      · simp [hmem]
      · have hinsert : (∀ m ∈ ns, m ∉ insert n names) ↔ ∀ m ∈ ns, m ∉ names := by
          refine forall₂_congr fun m hm => ?_
          rw [Finset.mem_insert, not_or]
          exact and_iff_right (fun he => hn (he ▸ hm))
        have hunion : insert n names ∪ ns.toFinset = names ∪ (n :: ns).toFinset := by
          rw [List.toFinset_cons, Finset.insert_union, Finset.union_insert]
        rw [if_neg hmem, Option.bind_some, ih hns]
        simp only [hinsert, hunion, List.forall_mem_cons, hmem, not_false_eq_true, true_and]

/-- Legal renames of distinct names to distinct names go through. The old names leave and the new
ones come. -/
theorem run?_flatMap_ofRename {ps : List Rename} (hs : (ps.map (·.sourceKey)).Nodup)
    (ht : (ps.map (·.targetKey)).Nodup) {names : Finset String}
    (hlegal : ∀ p ∈ ps, p.sourceKey ∈ names ∧ (p.targetKey ∈ names → p.targetKey = p.sourceKey)) :
    ∃ after, run? names (ps.flatMap ofRename) = some after ∧ ∀ n, n ∈ after ↔
      n ∈ names ∧ n ∉ ps.map (·.sourceKey) ∨ n ∈ ps.map (·.targetKey) := by
  induction ps generalizing names with
  | nil => exact ⟨names, rfl, by simp⟩
  | cons p ps ih =>
      rw [List.map_cons, List.nodup_cons] at hs ht
      obtain ⟨hsource, htarget⟩ := hlegal p (by simp)
      have hfree : p.targetKey ∉ names.erase p.sourceKey := by
        rw [Finset.mem_erase]
        exact fun h => h.1 (htarget h.2)
      have hsourceNe : ∀ q ∈ ps, q.sourceKey ≠ p.sourceKey :=
        fun q hq he => hs.1 (List.mem_map.mpr ⟨q, hq, he⟩)
      have htargetNe : ∀ q ∈ ps, q.targetKey ≠ p.targetKey :=
        fun q hq he => ht.1 (List.mem_map.mpr ⟨q, hq, he⟩)
      -- The new name is no old name of a later rename, which would have to be there already.
      have hnotSource : p.targetKey ∉ ps.map (·.sourceKey) := by
        intro h
        obtain ⟨q, hq, he⟩ := List.mem_map.mp h
        have hmem : p.targetKey ∈ names := he ▸ (hlegal q (List.mem_cons_of_mem p hq)).1
        exact hsourceNe q hq (he.trans (htarget hmem))
      have hlegalNext : ∀ q ∈ ps, q.sourceKey ∈ insert p.targetKey (names.erase p.sourceKey) ∧
          (q.targetKey ∈ insert p.targetKey (names.erase p.sourceKey) →
            q.targetKey = q.sourceKey) := by
        intro q hq
        obtain ⟨hqs, hqt⟩ := hlegal q (List.mem_cons_of_mem p hq)
        refine ⟨Finset.mem_insert_of_mem (Finset.mem_erase.mpr ⟨hsourceNe q hq, hqs⟩), ?_⟩
        intro hmem
        rcases Finset.mem_insert.mp hmem with he | hmem
        · exact absurd he (htargetNe q hq)
        · exact hqt (Finset.mem_of_mem_erase hmem)
      obtain ⟨after, hrun, hafter⟩ := ih hs.2 ht.2 hlegalNext
      refine ⟨after, ?_, ?_⟩
      · rw [List.flatMap_cons, run?_append, ofRename, run?_cons, next?, if_pos hsource,
          Option.bind_some, run?_cons, next?, if_neg hfree]
        exact hrun
      · intro n
        rw [hafter, Finset.mem_insert, Finset.mem_erase, List.map_cons, List.map_cons,
          List.mem_cons, List.mem_cons]
        by_cases hn : n = p.targetKey
        · subst hn
          simp [hnotSource]
        · simp only [hn, false_or, not_or, and_assoc]
          rw [and_left_comm]

end MergeStep

namespace Delta

def mergeSteps (d : Delta) : List MergeStep :=
  d.renames.flatMap MergeStep.ofRename ++ (d.keys .removed).map .leave
    ++ (d.keys .modified).map .stay ++ (d.keys .added).map .enter

/-- The canonical names of a base spec after a delta is merged into it. -/
def merged? (d : Delta) (base : String) : Option (Finset String) :=
  MergeStep.run? (Requirement.keysInText base).toFinset d.mergeSteps

/-- A name of the base spec is there after legal renames unless one of them gives it up. -/
theorem mem_after_renames_iff {ps : List Rename} {existing : List String} {after : Finset String}
    (hs : (ps.map (·.sourceKey)).Nodup) (hlegal : ∀ p ∈ ps, p.Legal existing)
    (hafter : ∀ n, n ∈ after ↔
      n ∈ existing ∧ n ∉ ps.map (·.sourceKey) ∨ n ∈ ps.map (·.targetKey))
    {n : String} (hn : n ∈ existing) :
    n ∈ after ↔ ∀ p ∈ ps, p.sourceKey = n → p.targetKey = n := by
  rw [hafter]
  constructor
  · rintro (⟨-, hsource⟩ | htarget) p hp he
    · exact absurd (List.mem_map.mpr ⟨p, hp, he⟩) hsource
    · obtain ⟨q, hq, hqn⟩ := List.mem_map.mp htarget
      have hqs : q.targetKey = q.sourceKey := (hlegal q hq).2 (hqn ▸ hn)
      have hqp : q = p := List.inj_on_of_nodup_map hs hq hp (hqs.symm.trans (hqn.trans he.symm))
      exact hqp ▸ hqn
  · intro hkeeps
    by_cases hsource : n ∈ ps.map (·.sourceKey)
    · obtain ⟨p, hp, he⟩ := List.mem_map.mp hsource
      exact Or.inr (List.mem_map.mpr ⟨p, hp, hkeeps p hp he⟩)
    · exact Or.inl ⟨hn, hsource⟩

/-! ## Whole deltas -/

/-- A delta that is reviewed without an issue and meets no obstacle can be merged exactly if it
renames none of the requirements that it removes, other than to the same name. -/
theorem merged?_isSome_iff {d : Delta} {file : Path} {base : String}
    (hclean : (d.review Ledger.empty file).1 = []) (hmerge : d.obstacle? (some base) = none) :
    (d.merged? base).isSome = true ↔
      ∀ r ∈ d.requirements .removed, ∀ p ∈ d.renames,
        p.sourceKey = r.key → p.targetKey = r.key := by
  obtain ⟨horder, hnodup⟩ := review_empty_eq_nil_iff.mp hclean
  obtain ⟨hmodified, hremoved, hlegal, hadded⟩ := obstacleAmong?_eq_none_iff.mp hmerge
  have hrenames : d.completeRenames = d.renames := List.filter_eq_self.mpr horder.complete
  have hsources : (d.renames.map (·.sourceKey)).Nodup := hrenames ▸ hnodup .renameSource
  have htargets : (d.renames.map (·.targetKey)).Nodup := hrenames ▸ hnodup .renameTarget
  rw [hrenames] at hlegal
  have hlegalBase : ∀ p ∈ d.renames, p.sourceKey ∈ (Requirement.keysInText base).toFinset ∧
      (p.targetKey ∈ (Requirement.keysInText base).toFinset → p.targetKey = p.sourceKey) := by
    intro p hp
    rw [List.mem_toFinset, List.mem_toFinset]
    exact hlegal p hp
  obtain ⟨after, hrun, hafter⟩ := MergeStep.run?_flatMap_ofRename hsources htargets hlegalBase
  simp only [List.mem_toFinset] at hafter
  have hleave : (∀ n ∈ d.keys .removed, n ∈ after) ↔ ∀ r ∈ d.requirements .removed,
      ∀ p ∈ d.renames, p.sourceKey = r.key → p.targetKey = r.key := by
    rw [keys, List.forall_mem_map]
    exact forall₂_congr fun r hr => mem_after_renames_iff hsources hlegal hafter (hremoved r hr)
  -- A name to modify is there under its old or its new name, and no removal takes it away.
  have hstay : ∀ n ∈ d.keys .modified, n ∈ after \ (d.keys .removed).toFinset := by
    intro n hn
    rw [Finset.mem_sdiff, List.mem_toFinset]
    refine ⟨(hafter n).mpr ?_, horder.modified_removed hn⟩
    have hnotSource : n ∉ d.renames.map (·.sourceKey) := hrenames ▸ horder.modified_renamed hn
    obtain ⟨r, hr, rfl⟩ := List.mem_map.mp hn
    rcases hmodified r hr with h | ⟨p, hp, -, hkey⟩
    · exact Or.inl ⟨h, hnotSource⟩
    · exact Or.inr (List.mem_map.mpr ⟨p, hrenames ▸ hp, hkey⟩)
  -- A name to add is neither in the base spec nor a new name.
  have henter : ∀ n ∈ d.keys .added, n ∉ after \ (d.keys .removed).toFinset := by
    intro n hn hmem
    have hnotTarget : n ∉ d.renames.map (·.targetKey) := hrenames ▸ horder.added_renamed hn
    obtain ⟨r, hr, rfl⟩ := List.mem_map.mp hn
    rcases (hafter r.key).mp (Finset.mem_sdiff.mp hmem).1 with h | h
    · exact hadded r hr h.1
    · exact hnotTarget h
  rw [← hleave, merged?, mergeSteps, MergeStep.run?_append, MergeStep.run?_append,
    MergeStep.run?_append, hrun, Option.bind_some, MergeStep.run?_map_leave (hnodup .removed)]
  by_cases h : ∀ n ∈ d.keys .removed, n ∈ after
  · rw [if_pos h, Option.bind_some, MergeStep.run?_map_stay, if_pos hstay, Option.bind_some,
      MergeStep.run?_map_enter (hnodup .added), if_pos henter]
    exact iff_of_true rfl h
  · rw [if_neg h]
    exact iff_of_false Bool.false_ne_true h

/-- A delta with each of the four operations, of which one rename respells a removed name. -/
theorem merged?_isSome_of_four_operations :
    let d : Delta := {
      added := some ⟨1, [⟨"Audit", 2, "It SHALL log.\n#### Scenario: a", []⟩]⟩
      modified := some ⟨5, [⟨"Sign in", 6, "It MUST work.\n#### Scenario: b", []⟩]⟩
      removed := some ⟨9, [⟨"Logout", 10, "", []⟩]⟩
      renamed := some ⟨11, [⟨"Login", "Sign in", 12⟩, ⟨"Logout", "LOGOUT", 14⟩]⟩ }
    let base := "### Requirement: Login\n### Requirement: Logout"
    (d.review Ledger.empty ⟨"spec.md"⟩).1 = [] ∧ d.obstacle? (some base) = none ∧
      (d.merged? base).isSome = true := by
  intro d base
  have hclean : (d.review Ledger.empty ⟨"spec.md"⟩).1 = [] := by decide +kernel
  have hmerge : d.obstacle? (some base) = none := by decide +kernel
  exact ⟨hclean, hmerge, (merged?_isSome_iff hclean hmerge).mpr (by decide +kernel)⟩

/-- The review lets a delta pass that removes a requirement under its old name and gives it a new
one. By the time of the removal the old name is gone. -/
theorem not_forall_merged?_isSome :
    ¬ ∀ (text base : String) (file : Path), (Requirement.keysInText base).Nodup →
      ((ofText text).review Ledger.empty file).1 = [] → (ofText text).obstacle? (some base) = none →
      ((ofText text).merged? base).isSome = true := by
  intro h
  have hmerged := h
    "## REMOVED Requirements\n### Requirement: A\n## RENAMED Requirements\n- FROM: A\n- TO: B"
    "### Requirement: A" ⟨"spec.md"⟩
    (by decide +kernel) (by decide +kernel) (by decide +kernel)
  exact absurd hmerged (by decide +kernel)

end Delta

end SpecReview
