import SpecReview.Proofs.Section.Surviving

/-! # The requirements of a text, section by section

The requirements of a text are cut from all of its lines, those of a section from the lines below
the heading of the section. A section heading closes a requirement and opens none, so that both
ways of cutting meet the same headings with the same lines after them. -/

namespace SpecReview

open Text

theorem Section.closes_of_opening? {l : List Char} {name : String} (h : opening? l = some name) :
    Requirement.opening? l = none ∧ Requirement.closes l = true := by
  rw [opening?_eq, ← Line.kind_eq_sectionHead_iff] at h
  simp [Requirement.opening?, Requirement.closes, h]

theorem Section.cut_written_fst (text : String) :
    (Block.cut opening? (fun _ => false) 1 (Text.lines text.toList)).1 = preamble text := by
  have hcontinues : Block.continues opening? (fun _ => false) = (opening? · = none) := by
    funext l
    cases h : opening? l <;> simp [Block.continues, h]
  rw [Block.cut_fst_eq_takeWhile, hcontinues, preamble]

namespace Requirement

/-- The requirements of a text are those ahead of the first section and then those of the
sections as they are written, whether or not a later section replaces them. -/
theorem inText_eq_append_written (text : String) :
    inText text =
      inLines 1 (Section.preamble text) ++ (Section.written text).flatMap (·.requirements) := by
  have hclose : ∀ l name, Section.opening? l = some name → opening? l = none ∧ closes l = true :=
    fun _ _ => Section.closes_of_opening?
  have hcut := Block.cut_eq_of_outer hclose 1 (lines text.toList)
  rw [inText, inLines, Block.all, hcut, List.map_append, Section.cut_written_fst,
    List.map_flatMap, Section.written, List.flatMap_map]
  rfl

/-- The headings of the requirements in lines are the lines that open one, each with its number. -/
theorem map_line_name_inLines (first : Nat) (ls : List (List Char)) :
    (inLines first ls).map (fun r => (r.line, r.name)) =
      (numberFrom first ls).filterMap fun (n, l) => (opening? l).map (n, ·) := by
  rw [← Block.map_line_head_cut opening? closes, inLines, List.map_map]
  rfl

/-- A text of which no two sections have one name has the requirements ahead of its first section
and then those of each section. In every text each requirement heading has one requirement, with
the name and the line of the heading. -/
theorem inText_by_sections_and_headings (text : String) :
    (((lines text.toList).filterMap Section.opening?).Nodup →
      inText text =
        inLines 1 (Section.preamble text) ++ (Section.inText text).flatMap (·.requirements)) ∧
      (inText text).map (fun r => (r.line, r.name)) =
        (numberFrom 1 (lines text.toList)).filterMap fun (n, l) => (opening? l).map (n, ·) := by
  refine ⟨?_, map_line_name_inLines 1 (lines text.toList)⟩
  intro h
  rw [← Section.map_name_written] at h
  have hsections : Section.inText text = Section.written text := Section.latest_eq_self h
  rw [hsections, inText_eq_append_written]

/-- A heading without a name closes a requirement and goes on with the section. -/
theorem inText_by_sections_of_three_parts :
    let text := "### Requirement: A\nA\n## B\n### Requirement: C\n### Scenario: c\n## \nD\n" ++
      "### Requirement: E\n## F"
    ((lines text.toList).filterMap Section.opening?).Nodup ∧
      inText text = [⟨"A", 1, "A", []⟩, ⟨"C", 4, "### Scenario: c", [⟨5, "### Scenario: c"⟩]⟩,
        ⟨"E", 8, "", []⟩] ∧
      inText text =
        inLines 1 (Section.preamble text) ++ (Section.inText text).flatMap (·.requirements) := by
  intro text
  have h : ((lines text.toList).filterMap Section.opening?).Nodup := by decide +kernel
  exact ⟨h, by decide +kernel, (inText_by_sections_and_headings text).1 h⟩

end Requirement

end SpecReview
