import SpecReview.Proofs.Merge.Obstacle
import SpecReview.Proofs.Review.Collision
import SpecReview.Proofs.Review.Position

/-! # Conflicts between the sections of a delta

After everything else a review reports the names that stand in two sections of one delta which
exclude each other. Each of the five pairs of sections has its own list of entries, one for each
name in common, whatever other files declare. -/

namespace SpecReview

/-- The requirements of a list with names of some kind, the first of each name, in the order of
the list. -/
structure FirstsOf (wanted : String → Prop) (rs fs : List Requirement) : Prop where
  mem_iff : ∀ name, name ∈ fs.map (·.key) ↔ name ∈ rs.map (·.key) ∧ wanted name
  once : (fs.map (·.key)).Nodup
  first : ∀ f ∈ fs, rs.find? (·.key = f.key) = some f
  ascending : fs.Pairwise fun f g => rs.findIdx (·.key = f.key) < rs.findIdx (·.key = g.key)

/-- The conflict that a finding reports, with the entry that it is about. -/
def DeltaFinding.conflict? : DeltaFinding → Option (Conflict × Requirement)
  | .conflict c r => some (c, r)
  | _ => none

/-! ## First entries -/

namespace FirstsOf

variable {wanted : String → Prop} {r : Requirement} {rs fs : List Requirement}

theorem nil : FirstsOf wanted [] [] := by
  constructor <;> simp

theorem wanted_of_mem (h : FirstsOf wanted rs fs) {f : Requirement} (hf : f ∈ fs) :
    wanted f.key :=
  ((h.mem_iff f.key).mp (List.mem_map_of_mem hf)).2

theorem pairwise_cons (h : FirstsOf wanted rs fs) (hr : ∀ f ∈ fs, r.key ≠ f.key) :
    fs.Pairwise fun f g =>
      (r :: rs).findIdx (·.key = f.key) < (r :: rs).findIdx (·.key = g.key) := by
  refine h.ascending.imp_of_mem fun {f g} hf hg hlt => ?_
  simpa [List.findIdx_cons, hr f hf, hr g hg] using hlt

/-- A requirement ahead of the others changes nothing if its name is not wanted. -/
theorem skip (h : FirstsOf wanted rs fs) (hr : ¬ wanted r.key) :
    FirstsOf wanted (r :: rs) fs := by
  have hne : ∀ f ∈ fs, r.key ≠ f.key := by
    intro f hf heq
    exact hr (heq ▸ h.wanted_of_mem hf)
  refine ⟨fun name => ?_, h.once, fun f hf => ?_, h.pairwise_cons hne⟩
  · rw [h.mem_iff, List.map_cons, List.mem_cons, or_and_right]
    exact (or_iff_right fun ⟨heq, hname⟩ => hr (heq ▸ hname)).symm
  · rw [List.find?_cons_of_neg (by simpa using hne f hf)]
    exact h.first f hf

/-- A requirement ahead of the others takes its name from them. -/
theorem cons (h : FirstsOf (fun name => wanted name ∧ name ≠ r.key) rs fs) (hr : wanted r.key) :
    FirstsOf wanted (r :: rs) (r :: fs) := by
  have hne : ∀ f ∈ fs, r.key ≠ f.key := fun f hf => (h.wanted_of_mem hf).2.symm
  refine ⟨fun name => ?_, ?_, ?_, ?_⟩
  · rw [List.map_cons, List.map_cons, List.mem_cons, List.mem_cons, h.mem_iff]
    by_cases heq : name = r.key
    · simp [heq, hr]
    · simp [heq]
  · rw [List.map_cons, List.nodup_cons]
    exact ⟨fun hmem => ((h.mem_iff _).mp hmem).2.2 rfl, h.once⟩
  · rintro f (_ | ⟨_, hf⟩)
    · simp
    · rw [List.find?_cons_of_neg (by simpa using hne f hf)]
      exact h.first f hf
  · rw [List.pairwise_cons]
    refine ⟨fun f hf => ?_, h.pairwise_cons hne⟩
    simp [List.findIdx_cons, hne f hf]

end FirstsOf

namespace Delta

theorem firstsOf_firsts (earlier names : List String) (rs : List Requirement) :
    FirstsOf (fun name => name ∈ names ∧ name ∉ earlier) rs
      (firsts earlier (rs.filter (·.key ∈ names))) := by
  induction rs generalizing earlier with
  | nil => exact .nil
  | cons r rs ih =>
      by_cases hnames : r.key ∈ names
      · rw [List.filter_cons_of_pos (by simpa using hnames), firsts]
        by_cases hearlier : r.key ∈ earlier
        · rw [if_pos hearlier]
          exact (ih earlier).skip fun h => h.2 hearlier
        · rw [if_neg hearlier]
          refine .cons ?_ ⟨hnames, hearlier⟩
          simpa [and_assoc, and_comm] using ih (r.key :: earlier)
      · rw [List.filter_cons_of_neg (by simpa using hnames)]
        exact (ih earlier).skip fun h => hnames h.1

variable {ledger : Ledger} {file : Path} {d : Delta}

theorem firstsOf_conflicting (d : Delta) (c : Conflict) :
    FirstsOf (· ∈ c.forbidden d) (d.requirements c.reporter) (d.conflicting c) := by
  simpa [conflicting] using firstsOf_firsts [] (c.forbidden d) (d.requirements c.reporter)

/-! ## Conflicts among the findings -/

theorem conflict?_of_mem_requirementFindings {op : Operation} {role : Role}
    {earlier : List String} {rs : List Requirement} {f : DeltaFinding}
    (h : f ∈ requirementFindings ledger file op role earlier rs) : f.conflict? = none := by
  obtain ⟨r, -, ⟨g, -, rfl⟩ | ⟨c, rfl⟩⟩ := of_mem_requirementFindings h <;> rfl

theorem conflict?_of_mem_renameFindings {sources targets : List String} {rs : List Rename}
    {f : DeltaFinding} (h : f ∈ renameFindings ledger file sources targets rs) :
    f.conflict? = none := by
  obtain ⟨r, -, rfl | ⟨side, c, rfl⟩⟩ := of_mem_renameFindings h <;> rfl

theorem conflict?_of_mem_sectionFindings {α : Type} {op : Operation}
    {findings : List α → List DeltaFinding} {s : Option (Declared α)} {f : DeltaFinding}
    (hentries : ∀ xs, ∀ g ∈ findings xs, g.conflict? = none)
    (h : f ∈ sectionFindings op findings s) : f.conflict? = none := by
  rcases of_mem_sectionFindings h with ⟨line, -, rfl⟩ | h
  · rfl
  · exact hentries _ f h

/-- The conflicts are the last findings of a review. -/
theorem exists_findings_eq_append (ledger : Ledger) (file : Path) (d : Delta) :
    ∃ others : List DeltaFinding, (∀ f ∈ others, f.conflict? = none) ∧
      d.findings ledger file =
        others ++ Conflict.all.flatMap fun c => (d.conflicting c).map (.conflict c) := by
  refine ⟨_, fun f hf => ?_, rfl⟩
  simp only [List.mem_append] at hf
  have hrequirements {op : Operation} {role : Role} (xs : List Requirement) :
      ∀ g ∈ requirementFindings ledger file op role [] xs, g.conflict? = none :=
    fun _ => conflict?_of_mem_requirementFindings
  rcases hf with ((hf | hf) | hf) | hf
  · exact conflict?_of_mem_sectionFindings hrequirements hf
  · exact conflict?_of_mem_sectionFindings hrequirements hf
  · exact conflict?_of_mem_sectionFindings hrequirements hf
  · exact conflict?_of_mem_sectionFindings (fun _ _ => conflict?_of_mem_renameFindings) hf

theorem conflict_mem_findings_iff {c : Conflict} {r : Requirement} :
    .conflict c r ∈ d.findings ledger file ↔ r ∈ d.conflicting c := by
  obtain ⟨others, hothers, hfindings⟩ := exists_findings_eq_append ledger file d
  have hnone : .conflict c r ∉ others := fun h => nomatch hothers _ h
  have hall : ∀ c, c ∈ Conflict.all := by
    intro c
    cases c <;> decide
  simp [hfindings, hnone, hall]

/-- Each name in two sections that exclude each other is reported once, pair of sections by pair of
sections, at its first entry in the section that the report is about. What other files declare
changes nothing. -/
theorem conflicts_of_review (d : Delta) :
    ∃ addedModified modifiedRemoved addedRemoved modifiedRenamed addedRenamed : List Requirement,
      FirstsOf (· ∈ d.keys .added) (d.requirements .modified) addedModified ∧
      FirstsOf (· ∈ d.keys .modified) (d.requirements .removed) modifiedRemoved ∧
      FirstsOf (· ∈ d.keys .added) (d.requirements .removed) addedRemoved ∧
      FirstsOf (· ∈ d.keys .renameSource) (d.requirements .modified) modifiedRenamed ∧
      FirstsOf (· ∈ d.keys .renameTarget) (d.requirements .added) addedRenamed ∧
      ∀ ledger file,
        (∃ others : List DeltaFinding, (∀ f ∈ others, f.conflict? = none) ∧
          (d.review ledger file).1 = (others
            ++ addedModified.map (DeltaFinding.conflict .addedModified)
            ++ modifiedRemoved.map (DeltaFinding.conflict .modifiedRemoved)
            ++ addedRemoved.map (DeltaFinding.conflict .addedRemoved)
            ++ modifiedRenamed.map (DeltaFinding.conflict .modifiedRenamed)
            ++ addedRenamed.map (DeltaFinding.conflict .addedRenamed)).map (·.toIssue file)) ∧
        ∀ c r, ∃ message, Quotes message r.name ∧ (DeltaFinding.conflict c r).toIssue file =
          ⟨.error, file.text ++ ": " ++ c.reporter.keyword ++ " Requirement '" ++ r.name ++ "'",
            message, some r.line⟩ := by
  refine ⟨_, _, _, _, _, d.firstsOf_conflicting .addedModified,
    d.firstsOf_conflicting .modifiedRemoved, d.firstsOf_conflicting .addedRemoved,
    d.firstsOf_conflicting .modifiedRenamed, d.firstsOf_conflicting .addedRenamed, ?_⟩
  intro ledger file
  obtain ⟨others, hothers, hfindings⟩ := exists_findings_eq_append ledger file d
  refine ⟨⟨others, hothers, ?_⟩, fun c r => ⟨_, c.quotes_message r.name, rfl⟩⟩
  simp only [review, hfindings, Conflict.all, List.flatMap_cons, List.flatMap_nil,
    List.append_nil, List.append_assoc]

/-! ## Requirements that go by a new name -/

section

variable {r : Requirement} {p : Rename}

theorem exists_conflict_iff {c : Conflict} {name : String} :
    (∃ f, f.key = name ∧ .conflict c f ∈ d.findings ledger file) ↔
      name ∈ (d.requirements c.reporter).map (·.key) ∧ name ∈ c.forbidden d := by
  rw [← (d.firstsOf_conflicting c).mem_iff, List.mem_map]
  simp only [conflict_mem_findings_iff]
  exact exists_congr fun f => and_comm

/-- No merge misses a requirement to modify that goes by the new name of a legal rename. -/
theorem obstacle?_ne_modifiedMissing {base : String} (hp : p ∈ d.completeRenames)
    (hlegal : p.Legal (Requirement.keysInText base)) :
    d.obstacle? (some base) ≠ some (.modifiedMissing p.target) := by
  intro h
  obtain ⟨before, e, after, -, -, hviolation⟩ := obstacleAmong?_eq_some_iff.mp h
  generalize ho : Obstacle.modifiedMissing p.target = o at hviolation
  cases hviolation with
  | @modified q hq =>
      have hname : p.target = q.name := Obstacle.modifiedMissing.inj ho
      exact hq (Or.inr ⟨p, hp, hlegal, congrArg Name.canonical hname⟩)
  | removed => cases ho
  | source => cases ho
  | target => cases ho
  | added => cases ho

/-- In a delta without chains of renames a requirement to modify that goes by the new name of a
rename is found in a merge. A review reports it as renamed only if the rename changes nothing but
the spelling of the name. -/
theorem modified_by_new_name (hr : r ∈ d.requirements .modified) (hp : p ∈ d.completeRenames)
    (hname : r.name = p.target)
    (hchain : ∀ q ∈ d.completeRenames, q ≠ p → p.targetKey ≠ q.sourceKey) :
    (∀ ledger file,
      (∃ f, f.key = r.key ∧ .conflict .modifiedRenamed f ∈ d.findings ledger file) ↔
        p.targetKey = p.sourceKey) ∧
    ∀ base, p.Legal (Requirement.keysInText base) →
      d.obstacle? (some base) ≠ some (.modifiedMissing r.name) := by
  have hkey : r.key = p.targetKey := congrArg Name.canonical hname
  refine ⟨fun ledger file => ?_, fun base hlegal => ?_⟩
  · have hmem : r.key ∈ (d.requirements .modified).map (·.key) := List.mem_map_of_mem hr
    rw [exists_conflict_iff]
    constructor
    · rintro ⟨-, hforbidden⟩
      obtain ⟨q, hq, hsource⟩ := List.mem_map.mp hforbidden
      have hqp : q = p := by
        by_contra hne
        exact hchain q hq hne (hkey ▸ hsource).symm
      rw [← hkey, ← hsource, hqp]
    · intro hspelling
      exact ⟨hmem, List.mem_map.mpr ⟨p, hp, by rw [hkey, hspelling]⟩⟩
  · rw [hname]
    exact obstacle?_ne_modifiedMissing hp hlegal

/-- A rename to another name, which a merge into its base spec accepts. -/
theorem modified_by_new_name_of_sign_in :
    let r : Requirement := ⟨"Sign In", 2, "It MUST.", []⟩
    let p : Rename := ⟨"Login", "Sign In", 5⟩
    let d : Delta := ⟨none, some ⟨1, [r]⟩, none, some ⟨4, [p]⟩⟩
    ofText ("## MODIFIED Requirements\n### Requirement: Sign In\nIt MUST.\n" ++
      "## RENAMED Requirements\n- FROM: Login\n- TO: Sign In") = d ∧
      (r ∈ d.requirements .modified ∧ p ∈ d.completeRenames) ∧
      (∀ ledger file, ¬ ∃ f, f.key = r.key ∧
        .conflict .modifiedRenamed f ∈ d.findings ledger file) ∧
      d.obstacle? (some "### Requirement: Login") ≠ some (.modifiedMissing r.name) := by
  intro r p d
  have hr : r ∈ d.requirements .modified := by decide
  have hp : p ∈ d.completeRenames := by decide
  obtain ⟨hreview, hmerge⟩ := modified_by_new_name hr hp rfl (by decide +kernel)
  have hlegal : p.Legal (Requirement.keysInText "### Requirement: Login") :=
    ⟨by decide +kernel, by decide +kernel⟩
  refine ⟨by decide +kernel, ⟨hr, hp⟩, fun ledger file h => ?_, hmerge _ hlegal⟩
  exact absurd ((hreview ledger file).mp h) (by decide +kernel)

/-- A rename to another spelling of the same name: the review reports the requirement although it
goes by the new name. -/
theorem not_forall_modified_by_new_name :
    ¬ ∀ (text : String) (r : Requirement) (p : Rename) (ledger : Ledger) (file : Path),
      let d := ofText text
      (d.renames.map (·.sourceKey)).Nodup → (d.renames.map (·.targetKey)).Nodup →
      (d.renames.Pairwise fun p q => p.targetKey ≠ q.sourceKey ∧ q.targetKey ≠ p.sourceKey) →
      r ∈ d.requirements .modified → p ∈ d.completeRenames → r.name = p.target →
      .conflict .modifiedRenamed r ∉ d.findings ledger file := by
  intro h
  let r : Requirement := ⟨"LOGIN", 2, "It MUST.", []⟩
  let p : Rename := ⟨"Login", "LOGIN", 5⟩
  obtain ⟨text, htext⟩ : ∃ text, ofText text = ⟨none, some ⟨1, [r]⟩, none, some ⟨4, [p]⟩⟩ :=
    ⟨"## MODIFIED Requirements\n### Requirement: LOGIN\nIt MUST.\n" ++
      "## RENAMED Requirements\n- FROM: Login\n- TO: LOGIN", by decide +kernel⟩
  have hclean := h text r p Ledger.empty ⟨"a"⟩
  simp only [htext] at hclean
  refine hclean ?_ ?_ ?_ ?_ ?_ rfl ?_ <;> decide +kernel

end

end Delta

end SpecReview
