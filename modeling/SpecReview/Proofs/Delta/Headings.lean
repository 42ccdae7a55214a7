import SpecReview.Proofs.Section.Headings

/-! # The operations of a text by its headings

A heading names an operation in letters of any case and with any blanks between its two words. Of
the headings that name one operation the last counts, in whatever spelling, and the operation
declares what the lines down to the next section heading hold. -/

namespace SpecReview.Delta

open Text

/-- Whether the line of this number is a section heading that names an operation. -/
def NamedAt (text : String) (op : Operation) (n : Nat) : Prop :=
  ∃ l name, LineAt text n l ∧ Section.HeadedBy name l ∧ Operation.ofHeading? name = some op

variable {text : String} {op : Operation} {s : Section} {n : Nat}

theorem namedAt_iff :
    NamedAt text op n ↔
      ∃ s ∈ Section.written text, s.line = n ∧ Operation.ofHeading? s.name = some op := by
  constructor
  · rintro ⟨l, name, hl, hhead, hop⟩
    obtain ⟨s, hs, hline, rfl⟩ := Section.exists_mem_written hl hhead
    exact ⟨s, hs, hline, hop⟩
  · rintro ⟨s, hs, rfl, hop⟩
    obtain ⟨l, hl, hhead⟩ := Section.exists_heading_of_mem_written hs
    exact ⟨l, s.name, hl, hhead, hop⟩

/-! ## The section of an operation -/

/-- No section is found exactly where no heading names the operation. -/
theorem sectionOf_inText_eq_none_iff :
    sectionOf op (Section.inText text) = none ↔ ∀ n, ¬ NamedAt text op n := by
  rw [sectionOf_inText, sectionOf, List.find?_eq_none]
  simp only [List.mem_reverse, decide_eq_true_eq, namedAt_iff]
  constructor
  · rintro h n ⟨s, hs, -, hop⟩
    exact h s hs hop
  · intro h s hs hop
    exact h s.line ⟨s, hs, rfl, hop⟩

/-- The sections after the one that is found name other operations, and those ahead of it have
smaller lines. -/
theorem le_line_of_namedAt (h : sectionOf op (Section.inText text) = some s)
    (hn : NamedAt text op n) : n ≤ s.line := by
  rw [sectionOf_inText, sectionOf, List.find?_eq_some_iff_append] at h
  obtain ⟨-, after, before, hreverse, hafter⟩ := h
  have hwritten : Section.written text = before.reverse ++ s :: after.reverse := by
    rw [← List.reverse_reverse (Section.written text), hreverse]
    simp
  have hascending := Section.pairwise_line_written text
  obtain ⟨u, hu, rfl, hop⟩ := namedAt_iff.mp hn
  rw [hwritten] at hascending hu
  rcases List.mem_append.mp hu with hu | hu
  · exact Nat.le_of_lt ((List.pairwise_append.mp hascending).2.2 u hu s (by simp))
  · rcases List.mem_cons.mp hu with rfl | hu
    · exact Nat.le_refl u.line
    · have hne := hafter u (List.mem_reverse.mp hu)
      simp [hop] at hne

theorem mem_written_of_sectionOf (h : sectionOf op (Section.inText text) = some s) :
    s ∈ Section.written text ∧ Operation.ofHeading? s.name = some op := by
  have hop := List.find?_some h
  have hmem := List.mem_reverse.mp (List.mem_of_find?_eq_some h)
  exact ⟨Section.mem_written_of_mem_inText hmem, of_decide_eq_true hop⟩

/-! ## What a delta declares -/

/-- What a delta declares under one operation: nothing if no heading names it, and otherwise what
is read from the lines below the last heading that does. -/
structure ByLastHeading {α : Type} (text : String) (op : Operation)
    (read : Nat → List (List Char) → List α) (d : Option (Declared α)) : Prop where
  eq_none_iff : d = none ↔ ∀ n, ¬ NamedAt text op n
  named : ∀ s, d = some s → NamedAt text op s.line
  last : ∀ s, d = some s → ∀ n, NamedAt text op n → n ≤ s.line
  entries : ∀ s, d = some s →
    ∃ ls, Section.Below text s.line ls ∧ s.entries = read (s.line + 1) ls

theorem byLastHeading_map {α : Type} (text : String) (op : Operation)
    (read : Nat → List (List Char) → List α) :
    ByLastHeading text op read ((sectionOf op (Section.inText text)).map fun s =>
      ⟨s.line, read (s.line + 1) s.lines⟩) := by
  have hnone : sectionOf op (Section.inText text) = none ↔ ∀ n, ¬ NamedAt text op n :=
    sectionOf_inText_eq_none_iff
  cases h : sectionOf op (Section.inText text) with
  | none =>
      rw [h] at hnone
      exact ⟨by simpa using hnone, by simp, by simp, by simp⟩
  | some s =>
      obtain ⟨hs, hop⟩ := mem_written_of_sectionOf h
      rw [h] at hnone
      refine ⟨by simpa using hnone, ?_, ?_, ?_⟩
      · rintro _ ⟨⟩
        exact namedAt_iff.mpr ⟨s, hs, rfl, hop⟩
      · rintro _ ⟨⟩ n hn
        exact le_line_of_namedAt h hn
      · rintro _ ⟨⟩
        exact ⟨s.lines, Section.below_of_mem_written hs, rfl⟩

theorem byLastHeading_requirementsOf (text : String) (op : Operation) :
    ByLastHeading text op Requirement.inLines (requirementsOf op (Section.inText text)) :=
  byLastHeading_map text op Requirement.inLines

/-- The operations of which there is a section are counted once each. -/
theorem sectionCount_ofText (text : String) :
    (ofText text).sectionCount =
      (Operation.all.filter fun op => (sectionOf op (Section.inText text)).isSome).length := by
  rw [sectionCount, added_ofText, modified_ofText, removed_ofText, renamed_ofText]
  simp only [requirementsOf, Option.isSome_map, Operation.all, List.filter_cons]
  cases (sectionOf .added (Section.inText text)).isSome <;>
    cases (sectionOf .modified (Section.inText text)).isSome <;>
    cases (sectionOf .removed (Section.inText text)).isSome <;>
    cases (sectionOf .renamed (Section.inText text)).isSome <;> rfl

/-- What the headings of a text say about its delta. -/
structure ByHeadings (text : String) (d : Delta) : Prop where
  added : ByLastHeading text .added Requirement.inLines d.added
  modified : ByLastHeading text .modified Requirement.inLines d.modified
  removed : ByLastHeading text .removed Requirement.inLines d.removed
  renamed : ByLastHeading text .renamed (fun n ls => Rename.inLines (numberFrom n ls)) d.renamed
  sectionCount : ∃ ops : List Operation, ops.Nodup ∧ (∀ op, op ∈ ops ↔ ∃ n, NamedAt text op n) ∧
    d.sectionCount = ops.length

/-- Each operation goes by the last heading that names it, and those that a heading names are
counted. -/
theorem ofText_by_headings (text : String) : ByHeadings text (ofText text) where
  added := by
    rw [added_ofText]
    exact byLastHeading_requirementsOf text .added
  modified := by
    rw [modified_ofText]
    exact byLastHeading_requirementsOf text .modified
  removed := by
    rw [removed_ofText]
    exact byLastHeading_requirementsOf text .removed
  renamed := by
    rw [renamed_ofText]
    exact byLastHeading_map text .renamed fun n ls => Rename.inLines (numberFrom n ls)
  sectionCount := by
    refine ⟨_, List.Nodup.filter _ (by decide), fun op => ?_, sectionCount_ofText text⟩
    have hall : op ∈ Operation.all := by cases op <;> decide
    rw [List.mem_filter, and_iff_right hall, Option.isSome_iff_ne_none, ne_eq,
      sectionOf_inText_eq_none_iff]
    push Not
    rfl

end SpecReview.Delta
