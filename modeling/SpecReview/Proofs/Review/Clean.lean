import SpecReview.Proofs.Review.Run

/-! # Deltas in which a review finds nothing

A review of a delta finds nothing exactly if the delta is in order by itself and none of its
names collides. A run over files finds nothing exactly if every delta is in order and no name is
declared twice in one role, be it in one file or in two. -/

namespace SpecReview

theorem Requirement.faults_eq_nil_iff {r : Requirement} :
    r.faults = [] ↔ isNormative r.content = true ∧ r.scenarios ≠ [] := by
  unfold faults onlyMalformed
  cases isNormative r.content <;> cases r.scenarios <;> simp

namespace Delta

/-- A delta that is in order whatever other files declare: no section is empty, what is added or
modified is normative and has a scenario, renames have both names, and no name stands in two
sections that exclude each other. -/
structure InOrder (d : Delta) : Prop where
  added_filled : ∀ s ∈ d.added, s.entries ≠ []
  modified_filled : ∀ s ∈ d.modified, s.entries ≠ []
  removed_filled : ∀ s ∈ d.removed, s.entries ≠ []
  renamed_filled : ∀ s ∈ d.renamed, s.entries ≠ []
  added_faultless : ∀ r ∈ d.requirements .added, isNormative r.content = true ∧ r.scenarios ≠ []
  modified_faultless :
    ∀ r ∈ d.requirements .modified, isNormative r.content = true ∧ r.scenarios ≠ []
  complete : ∀ r ∈ d.renames, r.isComplete = true
  added_modified : (d.keys .added).Disjoint (d.keys .modified)
  modified_removed : (d.keys .modified).Disjoint (d.keys .removed)
  added_removed : (d.keys .added).Disjoint (d.keys .removed)
  modified_renamed : (d.keys .modified).Disjoint (d.keys .renameSource)
  added_renamed : (d.keys .added).Disjoint (d.keys .renameTarget)

variable {ledger : Ledger} {file : Path}

/-! ## Sections -/

theorem sectionFindings_eq_nil_iff {α : Type} {op : Operation}
    {findings : List α → List DeltaFinding} {s : Option (Declared α)} (h : findings [] = []) :
    sectionFindings op findings s = [] ↔
      (∀ x ∈ s, x.entries ≠ []) ∧ findings ((s.map (·.entries)).getD []) = [] := by
  cases s with
  | none => simp [sectionFindings, h]
  | some s => cases hs : s.entries <;> simp [sectionFindings, hs]

theorem requirementFindings_eq_nil_iff {op : Operation} {role : Role} {earlier : List String}
    {rs : List Requirement} :
    requirementFindings ledger file op role earlier rs = [] ↔
      (op ≠ .removed → ∀ r ∈ rs, r.faults = []) ∧
      collisionsOf ledger file role earlier (rs.map (·.key)) = [] := by
  induction rs generalizing earlier with
  | nil => simp [requirementFindings, collisionsOf]
  | cons r rs ih =>
      rw [requirementFindings, List.map_cons, collisionsOf, List.append_eq_nil_iff,
        List.append_eq_nil_iff, List.append_eq_nil_iff, ih, List.map_eq_nil_iff,
        List.map_eq_nil_iff]
      by_cases hop : op = .removed
      · simp [hop]
      · simp only [hop, if_false, List.map_eq_nil_iff, ne_eq, not_false_eq_true, forall_const,
          List.forall_mem_cons]
        tauto

theorem renameFindings_eq_nil_iff {sources targets : List String} {rs : List Rename} :
    renameFindings ledger file sources targets rs = [] ↔
      (∀ r ∈ rs, r.isComplete = true) ∧
      collisionsOf ledger file .renameSource sources
        ((rs.filter (·.isComplete)).map (·.sourceKey)) = [] ∧
      collisionsOf ledger file .renameTarget targets
        ((rs.filter (·.isComplete)).map (·.targetKey)) = [] := by
  induction rs generalizing sources targets with
  | nil => simp [renameFindings, collisionsOf]
  | cons r rs ih =>
      rw [renameFindings]
      by_cases hr : r.isComplete
      · rw [if_pos hr, List.append_eq_nil_iff, List.append_eq_nil_iff, ih,
          List.filter_cons_of_pos hr, List.map_cons, List.map_cons, collisionsOf, collisionsOf,
          List.append_eq_nil_iff, List.append_eq_nil_iff, List.forall_mem_cons]
        simp only [List.map_eq_nil_iff, hr, true_and]
        tauto
      · simp [hr]

/-! ## Conflicts -/

theorem firsts_nil_eq_nil_iff {rs : List Requirement} : firsts [] rs = [] ↔ rs = [] := by
  cases rs <;> simp [firsts]

theorem conflicting_eq_nil_iff {d : Delta} {c : Conflict} :
    d.conflicting c = [] ↔ ∀ r ∈ d.requirements c.reporter, r.key ∉ c.forbidden d := by
  rw [conflicting, firsts_nil_eq_nil_iff, List.filter_eq_nil_iff]
  simp

theorem disjoint_map_key_iff {names : List String} {rs : List Requirement} :
    names.Disjoint (rs.map (·.key)) ↔ ∀ r ∈ rs, r.key ∉ names := by
  rw [List.disjoint_right]
  simp

/-! ## Deltas -/

theorem findings_eq_nil_iff {d : Delta} :
    d.findings ledger file = [] ↔
      d.InOrder ∧ ∀ role, collisionsOf ledger file role [] (d.keys role) = [] := by
  rw [findings, List.append_eq_nil_iff, List.append_eq_nil_iff, List.append_eq_nil_iff,
    List.append_eq_nil_iff, sectionFindings_eq_nil_iff rfl, sectionFindings_eq_nil_iff rfl,
    sectionFindings_eq_nil_iff rfl, sectionFindings_eq_nil_iff rfl,
    requirementFindings_eq_nil_iff, requirementFindings_eq_nil_iff,
    requirementFindings_eq_nil_iff, renameFindings_eq_nil_iff]
  simp only [Conflict.all, List.flatMap_cons, List.flatMap_nil, List.append_nil,
    List.append_eq_nil_iff, List.map_eq_nil_iff, conflicting_eq_nil_iff,
    Requirement.faults_eq_nil_iff, Conflict.reporter, Conflict.forbidden]
  constructor
  · rintro ⟨⟨⟨⟨⟨ha, hfa, hca⟩, ⟨hm, hfm, hcm⟩⟩, ⟨hr, -, hcr⟩⟩, ⟨hn, hcomplete, hcs, hct⟩⟩,
      ⟨ham, hmr, har, hmn, han⟩⟩
    refine ⟨⟨ha, hm, hr, hn, hfa (by simp), hfm (by simp), hcomplete,
      disjoint_map_key_iff.mpr ham, disjoint_map_key_iff.mpr hmr, disjoint_map_key_iff.mpr har,
      (disjoint_map_key_iff.mpr hmn).symm, (disjoint_map_key_iff.mpr han).symm⟩, ?_⟩
    intro role
    cases role
    · exact hca
    · exact hcm
    · exact hcr
    · exact hcs
    · exact hct
  · rintro ⟨h, hcollisions⟩
    exact ⟨⟨⟨⟨⟨h.added_filled, fun _ => h.added_faultless, hcollisions .added⟩,
      ⟨h.modified_filled, fun _ => h.modified_faultless, hcollisions .modified⟩⟩,
      ⟨h.removed_filled, fun hne => absurd rfl hne, hcollisions .removed⟩⟩,
      ⟨h.renamed_filled, h.complete, hcollisions .renameSource, hcollisions .renameTarget⟩⟩,
      ⟨disjoint_map_key_iff.mp h.added_modified, disjoint_map_key_iff.mp h.modified_removed,
        disjoint_map_key_iff.mp h.added_removed, disjoint_map_key_iff.mp h.modified_renamed.symm,
        disjoint_map_key_iff.mp h.added_renamed.symm⟩⟩

/-- The first delta of a change is reviewed without an issue exactly if it is in order and no
name is declared twice in one role. -/
theorem review_empty_eq_nil_iff {d : Delta} :
    (d.review Ledger.empty file).1 = [] ↔ d.InOrder ∧ ∀ role, (d.keys role).Nodup := by
  have hnodup (role : Role) :
      collisionsOf Ledger.empty file role [] (d.keys role) = [] ↔ (d.keys role).Nodup := by
    rw [collisionsOf_eq_nil_iff]
    simp [Ledger.otherHolder?, Ledger.holder?_empty]
  rw [review, List.map_eq_nil_iff, findings_eq_nil_iff]
  simp only [hnodup]

end Delta

/-! ## Runs -/

namespace Submission

theorem findingsAll_eq_nil_iff {ledger : Ledger} {ss : List Submission} :
    findingsAll ledger ss = [] ↔
      (∀ s ∈ ss, s.delta.InOrder) ∧ ∀ role, collisionsAll ledger role ss = [] := by
  induction ss generalizing ledger with
  | nil => simp [findingsAll, collisionsAll]
  | cons s ss ih =>
      rw [findingsAll, List.append_eq_nil_iff, List.map_eq_nil_iff, Delta.findings_eq_nil_iff, ih,
        List.forall_mem_cons]
      simp only [collisionsAll_cons, List.append_eq_nil_iff, forall_and]
      tauto

/-- Different files are reviewed without a finding exactly if each delta is in order and no name
is declared twice in one role. -/
theorem findingsAll_empty_eq_nil_iff {ss : List Submission}
    (h : ss.Pairwise fun s s' => s.file.same s'.file = false) :
    findingsAll Ledger.empty ss = [] ↔
      (∀ s ∈ ss, s.delta.InOrder) ∧ ∀ role, (keysAll role ss).Nodup := by
  simp only [findingsAll_eq_nil_iff, collisionsAll_eq_nil_iff h]

end Submission

end SpecReview
