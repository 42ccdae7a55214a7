import SpecReview.Proofs.Merge.Obstacle
import SpecReview.Proofs.Requirement.Position
import SpecReview.Proofs.Requirement.Sections
import SpecReview.Proofs.Review.Base

/-! # The names that a base spec has

A merge takes a base spec to have every requirement that has a heading in it, wherever the heading
stands. The review of the spec looks at one section only. What the review looks at exists for a
merge as well, and nothing else does if the headings outside of the section repeat its names. -/

namespace SpecReview

open Text

/-- The delta that removes one requirement and does nothing else. -/
def Delta.removing (name : String) : Delta where
  added := none
  modified := none
  removed := some ⟨1, [⟨name, 2, "", []⟩]⟩
  renamed := none

namespace Base

/-- Whether a merge takes a requirement of this name to exist: nothing is in the way of its
removal. -/
def Has (base name : String) : Prop :=
  (Delta.removing name).obstacle? (some base) = none

/-- Whether a line is not in the section that a review looks at. -/
def Outside (base : String) (n : Nat) : Prop :=
  ∀ s, Section.lastNamed? "Requirements" base = some s →
    ¬ (s.line < n ∧ n ≤ s.line + s.lines.length)

variable {base name : String} {r : Requirement}

/-! ## Names -/

theorem has_iff_mem_keysInText :
    Has base name ↔ Name.canonical name ∈ Requirement.keysInText base := by
  change (Delta.removing name).obstacleAmong? (Requirement.keysInText base) = none ↔ _
  rw [Delta.obstacleAmong?_eq_none_iff]
  simp [Delta.removing, Delta.requirements, Delta.completeRenames, Delta.renames, Requirement.key]

/-- The requirement headings with their numbers are what requirements are made of. -/
theorem exists_requirement_iff {first n : Nat} {ls : List (List Char)} :
    (∃ r ∈ Requirement.inLines first ls, r.line = n ∧ r.name = name) ↔
      ∃ l, (n, l) ∈ numberFrom first ls ∧ Line.kind l = .requirementHead name := by
  have hmem : (n, name) ∈ (Requirement.inLines first ls).map (fun r => (r.line, r.name)) ↔
      ∃ l, (n, l) ∈ numberFrom first ls ∧ Requirement.opening? l = some name := by
    rw [Requirement.map_line_name_inLines, List.mem_filterMap]
    simp
  simpa [Requirement.opening?_eq, ← Line.kind_eq_requirementHead_iff] using hmem

theorem has_iff_heading :
    Has base name ↔ ∃ n l other, LineAt base n l ∧ Line.kind l = .requirementHead other ∧
      Name.canonical other = Name.canonical name := by
  rw [has_iff_mem_keysInText, Requirement.keysInText, List.mem_map]
  constructor
  · rintro ⟨r, hr, hkey⟩
    obtain ⟨l, hl, hkind⟩ := exists_requirement_iff.mp ⟨r, hr, rfl, rfl⟩
    exact ⟨r.line, l, r.name, hl, hkind, hkey⟩
  · rintro ⟨n, l, other, hl, hkind, hkey⟩
    obtain ⟨r, hr, -, rfl⟩ := exists_requirement_iff.mpr ⟨l, hl, hkind⟩
    exact ⟨r, hr, hkey⟩

/-! ## The requirements that a review looks at -/

theorem requirement?_of_mem_requirementFindings {settings : Settings} {f : BaseFinding}
    (h : f ∈ requirementFindings settings r) : f.requirement? = some r := by
  rw [requirementFindings, List.mem_append, List.mem_map] at h
  rcases h with ⟨fault, -, rfl⟩ | h
  · rfl
  · cases hlimit : settings.maxRequirementLength with
    | none => simp [hlimit] at h
    | some limit =>
        obtain ⟨-, rfl⟩ : limit < r.content.length ∧ f = .tooLong r limit := by
          simpa [hlimit] using h
        rfl

theorem mem_reviewed_of_requirement? {settings : Settings} {f : BaseFinding}
    (hf : f ∈ findings settings base) (hr : f.requirement? = some r) : r ∈ reviewed base := by
  rcases mem_findings_iff.mp hf with ⟨-, rfl⟩ | ⟨-, rfl⟩ | ⟨s, -, -, rfl⟩ | ⟨r', hr', hf⟩
  · cases hr
  · cases hr
  · cases hr
  · rw [requirement?_of_mem_requirementFindings hf] at hr
    exact Option.some.inj hr ▸ hr'

/-- A review looks at the requirements that it finds something in under some settings. A limit of
zero does for all: what is not too long then is empty, and has no keyword. -/
theorem mem_reviewed_iff :
    r ∈ reviewed base ↔
      ∃ settings, ∃ f ∈ findings settings base, f.requirement? = some r := by
  constructor
  · intro hr
    have hne : requirementFindings ⟨0, some 0, false⟩ r ≠ [] := by
      rw [ne_eq, requirementFindings_eq_nil_iff]
      rintro ⟨hnormative, -, hlength⟩
      have hempty : r.content = "" := by simpa using hlength 0 rfl
      rw [hempty] at hnormative
      exact absurd hnormative (by decide)
    obtain ⟨f, hf⟩ := List.exists_mem_of_ne_nil _ hne
    have hmem : f ∈ findings ⟨0, some 0, false⟩ base :=
      mem_findings_iff.mpr (.inr (.inr (.inr ⟨r, hr, hf⟩)))
    exact ⟨_, f, hmem, requirement?_of_mem_requirementFindings hf⟩
  · rintro ⟨settings, f, hf, hr⟩
    exact mem_reviewed_of_requirement? hf hr

theorem lastNamed?_mem_written {s : Section} (h : Section.lastNamed? name base = some s) :
    s ∈ Section.written base :=
  List.mem_reverse.mp (List.mem_of_find?_eq_some h)

theorem mem_inText_of_mem_reviewed (h : r ∈ reviewed base) : r ∈ Requirement.inText base := by
  obtain ⟨s, hs, hr⟩ := List.mem_flatMap.mp h
  rw [Requirement.inText_eq_append_written]
  exact List.mem_append_right _
    (List.mem_flatMap.mpr ⟨s, lastNamed?_mem_written (Option.mem_toList.mp hs), hr⟩)

/-- A line between the heading of a section and its end is one of its lines. -/
theorem mem_numbered_of_lineAt {s : Section} (hs : s ∈ Section.written base) {n : Nat}
    {l : List Char} (hl : LineAt base n l) (hstart : s.line < n)
    (hend : n ≤ s.line + s.lines.length) : (n, l) ∈ s.numbered := by
  obtain ⟨b, hb, rfl⟩ := List.mem_map.mp hs
  have hindex : n - ((Section.ofBlock b).line + 1) < (Section.ofBlock b).lines.length := by omega
  have hmem : (n, (Section.ofBlock b).lines[n - ((Section.ofBlock b).line + 1)]) ∈
      (Section.ofBlock b).numbered :=
    mem_numberFrom_iff.mpr ⟨hstart, List.getElem?_eq_getElem hindex⟩
  have hline := (mem_numberFrom_iff.mp (Block.numbered_subset hb hmem)).2
  rw [(mem_numberFrom_iff.mp hl).2] at hline
  rw [Option.some.inj hline]
  exact hmem

/-- A heading is outside of the section that a review looks at, or opens one of its
requirements. -/
theorem outside_or_exists_reviewed {n : Nat} {l : List Char} {other : String}
    (hl : LineAt base n l) (hkind : Line.kind l = .requirementHead other) :
    Outside base n ∨ ∃ r ∈ reviewed base, r.name = other := by
  by_cases h : Outside base n
  · exact Or.inl h
  · simp only [Outside, not_forall, not_not] at h
    obtain ⟨s, hs, hstart, hend⟩ := h
    have hnumbered := mem_numbered_of_lineAt (lastNamed?_mem_written hs) hl hstart hend
    obtain ⟨r, hr, -, hname⟩ := exists_requirement_iff.mpr ⟨l, hnumbered, hkind⟩
    exact Or.inr ⟨r, List.mem_flatMap.mpr ⟨s, Option.mem_toList.mpr hs, hr⟩, hname⟩

/-! ## Both sets of names -/

/-- A merge takes a base spec to have the requirements of all headings in it. Those that a review
looks at are among them, and they are all if no heading outside of their section has a name of
its own. -/
theorem has_iff_heading_and_reviewed (base : String) :
    (∀ name, Has base name ↔ ∃ n l other, LineAt base n l ∧
        Line.kind l = .requirementHead other ∧ Name.canonical other = Name.canonical name) ∧
      (∀ r, r ∈ reviewed base ↔
        ∃ settings, ∃ f ∈ findings settings base, f.requirement? = some r) ∧
      (∀ r ∈ reviewed base, Has base r.name) ∧
      ((∀ name, Has base name ↔ ∃ r ∈ reviewed base, r.key = Name.canonical name) ↔
        ∀ n l other, LineAt base n l → Line.kind l = .requirementHead other → Outside base n →
          ∃ r ∈ reviewed base, r.key = Name.canonical other) := by
  have hreviewed : ∀ r ∈ reviewed base, Has base r.name := fun r hr =>
    has_iff_mem_keysInText.mpr (List.mem_map_of_mem (mem_inText_of_mem_reviewed hr))
  refine ⟨fun _ => has_iff_heading, fun _ => mem_reviewed_iff, hreviewed, ?_, ?_⟩
  · intro h n l other hl hkind _
    exact (h other).mp (has_iff_heading.mpr ⟨n, l, other, hl, hkind, rfl⟩)
  · intro h name
    constructor
    · intro hname
      obtain ⟨n, l, other, hl, hkind, hkey⟩ := has_iff_heading.mp hname
      rw [← hkey]
      rcases outside_or_exists_reviewed hl hkind with houtside | ⟨r, hr, rfl⟩
      · exact h n l other hl hkind houtside
      · exact ⟨r, hr, rfl⟩
    · rintro ⟨r, hr, hkey⟩
      rw [has_iff_mem_keysInText, ← hkey]
      exact has_iff_mem_keysInText.mp (hreviewed r hr)

/-- A heading outside that repeats a name in other letters leaves the two sets equal. -/
theorem has_iff_reviewed_of_repeated_name :
    let base := "## Requirements\n### Requirement: A\n## Notes\n### Requirement: a"
    (∀ n l other, LineAt base n l → Line.kind l = .requirementHead other → Outside base n →
        ∃ r ∈ reviewed base, r.key = Name.canonical other) ∧
      ∀ name, Has base name ↔ ∃ r ∈ reviewed base, r.key = Name.canonical name := by
  intro base
  have hlines : ∀ x ∈ numberFrom 1 (lines base.toList), ∀ other ∈ Requirement.opening? x.2,
      Name.canonical other = "a" := by decide +kernel
  have hinside : ⟨"A", 2, "", []⟩ ∈ reviewed base := by decide +kernel
  have houtside : ∀ n l other, LineAt base n l → Line.kind l = .requirementHead other →
      Outside base n → ∃ r ∈ reviewed base, r.key = Name.canonical other := by
    intro n l other hl hkind _
    have hopen : Requirement.opening? l = some other := by
      rw [Requirement.opening?_eq, ← Line.kind_eq_requirementHead_iff, hkind]
    exact ⟨_, hinside, by rw [hlines (n, l) hl other hopen]; decide⟩
  exact ⟨houtside, (has_iff_heading_and_reviewed base).2.2.2.mpr houtside⟩

/-- A requirement ahead of all sections exists for a merge and is none of those reviewed. -/
theorem not_forall_has_iff_reviewed :
    ¬ ∀ base name, Has base name ↔ ∃ r ∈ reviewed base, r.key = Name.canonical name := by
  intro h
  have hreviewed : reviewed "### Requirement: A" = [] := by decide +kernel
  have hhas : Has "### Requirement: A" "A" := by
    unfold Has
    decide +kernel
  obtain ⟨r, hr, -⟩ := (h "### Requirement: A" "A").mp hhas
  rw [hreviewed] at hr
  cases hr

end Base

end SpecReview
