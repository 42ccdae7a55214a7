import SpecReview.Proofs.Review.Run

/-! # A file reviewed again

A ledger only grows: whoever holds a claim keeps it through every later review. After a file has
been reviewed all of its claims have holders, so that a second review of it has nothing to enter
and meets the same other files as the first. -/

namespace SpecReview

/-! ## Ledgers that grow -/

namespace Ledger

variable {l l' : Ledger} {file : Path} {cs : List Claim} {c : Claim}

/-- Whoever holds a claim in the first ledger holds it in the second. -/
def GrowsTo (l l' : Ledger) : Prop :=
  ∀ c p, l.holder? c = some p → l'.holder? c = some p

theorem GrowsTo.refl (l : Ledger) : l.GrowsTo l :=
  fun _ _ h => h

theorem GrowsTo.trans {l₁ l₂ l₃ : Ledger} (h : l₁.GrowsTo l₂) (h' : l₂.GrowsTo l₃) :
    l₁.GrowsTo l₃ :=
  fun c p hp => h' c p (h c p hp)

theorem growsTo_recordAll (l : Ledger) (file : Path) (cs : List Claim) :
    l.GrowsTo (l.recordAll file cs) :=
  fun _ _ h => holder?_recordAll_of_some h file cs

/-- A file has nothing to enter if all of its claims have holders. -/
theorem recordAll_eq_self (h : ∀ c ∈ cs, ∃ p, l.holder? c = some p) :
    l.recordAll file cs = l := by
  induction cs with
  | nil => rfl
  | cons c cs ih =>
      obtain ⟨p, hp⟩ := h c (by simp)
      have hrecord : l.record file c = l := by rw [record, hp]
      have hstep : l.recordAll file (c :: cs) = (l.record file c).recordAll file cs := rfl
      rw [hstep, hrecord]
      exact ih fun d hd => h d (List.mem_cons_of_mem c hd)

/-- A claim of a file has a holder once it is entered: the one it had, or else the file. -/
theorem GrowsTo.holder?_of_mem (h : (l.recordAll file cs).GrowsTo l') (hc : c ∈ cs) :
    l'.holder? c = some ((l.holder? c).getD file) := by
  apply h
  rw [holder?_recordAll, if_pos hc]
  cases l.holder? c <;> rfl

/-- Another file holds a claim after it is entered just if one held it before. -/
theorem GrowsTo.otherHolder?_of_mem (h : (l.recordAll file cs).GrowsTo l') (hc : c ∈ cs) :
    l'.otherHolder? file c = l.otherHolder? file c := by
  rw [otherHolder?, otherHolder?, h.holder?_of_mem hc]
  cases l.holder? c with
  | some p => rfl
  | none => simp [Path.same]

end Ledger

/-! ## What a review reads of the ledger -/

namespace Delta

variable {l l' : Ledger} {file : Path} {op : Operation} {role : Role}

theorem collision?_congr {c : Claim} (h : l'.otherHolder? file c = l.otherHolder? file c)
    (earlier : List String) : collision? l' file earlier c = collision? l file earlier c := by
  rw [collision?, collision?, h]

theorem requirementFindings_congr (op : Operation) {rs : List Requirement}
    (h : ∀ r ∈ rs, l'.otherHolder? file ⟨role, r.key⟩ = l.otherHolder? file ⟨role, r.key⟩)
    (earlier : List String) : requirementFindings l' file op role earlier rs =
      requirementFindings l file op role earlier rs := by
  induction rs generalizing earlier with
  | nil => rfl
  | cons r rs ih =>
      have hrest := ih (fun s hs => h s (List.mem_cons_of_mem r hs)) (r.key :: earlier)
      rw [requirementFindings, requirementFindings, collision?_congr (h r (by simp)), hrest]

theorem renameFindings_congr {rs : List Rename}
    (h : ∀ r ∈ rs, r.isComplete = true →
      l'.otherHolder? file ⟨.renameSource, r.sourceKey⟩ =
          l.otherHolder? file ⟨.renameSource, r.sourceKey⟩ ∧
        l'.otherHolder? file ⟨.renameTarget, r.targetKey⟩ =
          l.otherHolder? file ⟨.renameTarget, r.targetKey⟩)
    (sources targets : List String) : renameFindings l' file sources targets rs =
      renameFindings l file sources targets rs := by
  induction rs generalizing sources targets with
  | nil => rfl
  | cons r rs ih =>
      have ih := ih fun s hs => h s (List.mem_cons_of_mem r hs)
      rw [renameFindings, renameFindings]
      by_cases hr : r.isComplete = true
      · obtain ⟨hsource, htarget⟩ := h r (by simp) hr
        rw [if_pos hr, if_pos hr, collision?_congr hsource, collision?_congr htarget, ih]
      · rw [if_neg hr, if_neg hr, ih]

theorem sectionFindings_congr {α : Type} {findings findings' : List α → List DeltaFinding}
    {s : Option (Declared α)}
    (h : findings' ((s.map (·.entries)).getD []) = findings ((s.map (·.entries)).getD [])) :
    sectionFindings op findings' s = sectionFindings op findings s := by
  cases s with
  | none => rfl
  | some s =>
      have hentries : findings' s.entries = findings s.entries := h
      rw [sectionFindings, sectionFindings, hentries]

/-- Of the ledger a review reads only which other files hold the claims of the delta. -/
theorem findings_congr {d : Delta}
    (h : ∀ c ∈ d.claims, l'.otherHolder? file c = l.otherHolder? file c) :
    d.findings l' file = d.findings l file := by
  have hkeys (role : Role) : ∀ n ∈ d.keys role,
      l'.otherHolder? file ⟨role, n⟩ = l.otherHolder? file ⟨role, n⟩ :=
    fun n hn => h ⟨role, n⟩ (mem_claims_iff.mpr hn)
  have hadded := requirementFindings_congr .added
    (fun r hr => hkeys .added r.key (List.mem_map_of_mem hr)) []
  have hmodified := requirementFindings_congr .modified
    (fun r hr => hkeys .modified r.key (List.mem_map_of_mem hr)) []
  have hremoved := requirementFindings_congr .removed
    (fun r hr => hkeys .removed r.key (List.mem_map_of_mem hr)) []
  have hrenamed : renameFindings l' file [] [] d.renames = renameFindings l file [] [] d.renames := by
    apply renameFindings_congr
    intro r hr hcomplete
    have hmem : r ∈ d.completeRenames := List.mem_filter.mpr ⟨hr, hcomplete⟩
    exact ⟨hkeys .renameSource r.sourceKey (List.mem_map_of_mem hmem),
      hkeys .renameTarget r.targetKey (List.mem_map_of_mem hmem)⟩
  rw [findings, findings, sectionFindings_congr hadded, sectionFindings_congr hmodified,
    sectionFindings_congr hremoved, sectionFindings_congr hrenamed]

theorem review_snd_growsTo (l : Ledger) (file : Path) (d : Delta) :
    l.GrowsTo (d.review l file).2 :=
  Ledger.growsTo_recordAll l file d.claims

end Delta

/-! ## Runs -/

namespace Submission

/-- No review of a run takes a claim from its holder. -/
theorem growsTo_reviewAll (l : Ledger) (ss : List Submission) : l.GrowsTo (reviewAll l ss).2 := by
  induction ss generalizing l with
  | nil => exact Ledger.GrowsTo.refl l
  | cons s ss ih =>
      have hstep : l.GrowsTo (s.delta.review l s.file).2 := Delta.review_snd_growsTo l s.file s.delta
      exact hstep.trans (ih _)

/-- When a file is reviewed again, after any run of other reviews or of its own, the issues are
those of the first review, and the ledger stays as it is. -/
theorem review_again (l : Ledger) (s : Submission) (ss : List Submission) :
    s.delta.review (reviewAll (s.delta.review l s.file).2 ss).2 s.file =
      ((s.delta.review l s.file).1, (reviewAll (s.delta.review l s.file).2 ss).2) := by
  have hgrows : (l.recordAll s.file s.delta.claims).GrowsTo
      (reviewAll (s.delta.review l s.file).2 ss).2 := growsTo_reviewAll _ ss
  have hfindings : s.delta.findings (reviewAll (s.delta.review l s.file).2 ss).2 s.file =
      s.delta.findings l s.file :=
    Delta.findings_congr fun c hc => hgrows.otherHolder?_of_mem hc
  have hledger : (reviewAll (s.delta.review l s.file).2 ss).2.recordAll s.file s.delta.claims =
      (reviewAll (s.delta.review l s.file).2 ss).2 :=
    Ledger.recordAll_eq_self fun c hc => ⟨_, hgrows.holder?_of_mem hc⟩
  rw [Delta.review, hfindings, hledger]
  rfl

end Submission

end SpecReview
