import SpecReview.Proofs.Requirement.Names
import SpecReview.Proofs.Requirement.Sections

/-! # Requirement headings on the lines of renames

A rename may give a name as the heading of a requirement, in backticks or without them. In
backticks every name is read as it is written. Without them a backtick at the end of the name is
taken for one around the heading, and the name loses it. -/

namespace SpecReview

open Text

/-! ## The names of requirements -/

theorem Name.Writable.exists_mem_inText {name : String} (h : Writable name) :
    ∃ text, ∃ r ∈ Requirement.inText text, r.name = name := by
  let head : Requirement := ⟨name, 1, "", []⟩
  have hopen : Requirement.opening? head.headLine = some name :=
    Requirement.opening?_headLine h
  have hlines : lines head.headLine = [head.headLine] := by
    apply lines_of_newline_notMem
    · simp [Requirement.headLine]
    · rw [Requirement.headLine, String.toList_append, List.mem_append, not_or]
      exact ⟨by decide, h.no_newline⟩
  have hmem : (1, name) ∈ (Requirement.inText (String.ofList head.headLine)).map
      fun r => (r.line, r.name) := by
    rw [Requirement.inText, Requirement.map_line_name_inLines, String.toList_ofList, hlines]
    refine List.mem_filterMap.mpr ⟨(1, head.headLine), List.mem_singleton_self _, ?_⟩
    simp only [hopen, Option.map_some]
  obtain ⟨r, hr, hname⟩ := List.mem_map.mp hmem
  exact ⟨_, r, hr, (Prod.mk.inj hname).2⟩

theorem Name.Writable.exists_concat {name : String} (h : Writable name) :
    ∃ init last, name.toList = init ++ [last] ∧ isBlank last = false := by
  obtain ⟨init, last, hname⟩ : ∃ init last, name.toList = init ++ [last] :=
    (List.eq_nil_or_concat' name.toList).resolve_left (by simpa using h.ne_empty)
  refine ⟨init, last, hname, ?_⟩
  have hend := (trimStart_and_trimEnd_of_trim h.trimmed).2
  apply isBlank_of_getLast?_trimEnd
  rw [hend, hname, List.getLast?_concat]

/-- The names that can stand on a line are those of the requirements in texts. -/
theorem Name.writable_iff_exists_mem_inText {name : String} :
    Name.Writable name ↔ ∃ text, ∃ r ∈ Requirement.inText text, r.name = name := by
  refine ⟨Writable.exists_mem_inText, ?_⟩
  rintro ⟨text, r, hr, rfl⟩
  exact Requirement.writable_of_mem_inText hr

namespace Rename

/-! ## Headings on the lines -/

/-- A name without the backtick that it may end with and the blanks ahead of that backtick. -/
def withoutBacktick (name : String) : String :=
  if name.toList.getLast? = some '\x60' then String.ofList (trimEnd name.toList.dropLast) else name

/-- A name loses nothing unless it ends with a backtick. -/
theorem withoutBacktick_eq_self_iff {name : String} :
    withoutBacktick name = name ↔ name.toList.getLast? ≠ some '\x60' := by
  by_cases h : name.toList.getLast? = some '\x60'
  · have hne : name.toList ≠ [] := by
      intro hnil
      simp [hnil] at h
    simp only [withoutBacktick, h, if_true, ne_eq, not_true, iff_false]
    intro heq
    have hlength : (trimEnd name.toList.dropLast).length = name.toList.length := by
      rw [← String.toList_ofList (l := trimEnd _), heq]
    have hle := (isPrefix_trimEnd name.toList.dropLast).length_le
    have hpos := List.length_pos_iff.mpr hne
    rw [List.length_dropLast] at hle
    omega
  · simp [withoutBacktick, h]

/-- Without backticks around it a heading gives its name, less a backtick that ends it. -/
theorem sideName_heading {name : String} (h : Name.Writable name) :
    sideName (" ### Requirement: ".toList ++ name.toList) = withoutBacktick name := by
  have hskip : skipHeading (trimStart (skipMark '\x60'
      (" ### Requirement: ".toList ++ name.toList))) = ' ' :: name.toList := rfl
  have hblank : trimStart (' ' :: name.toList) = trimStart name.toList := rfl
  obtain ⟨hstart, hend⟩ := trimStart_and_trimEnd_of_trim h.trimmed
  obtain ⟨init, last, hname, hlast⟩ := h.exists_concat
  rw [sideName, hskip, hblank, hstart, hname, List.reverse_concat, skipMark,
    trimStart_cons_of_not_blank hlast]
  by_cases hmark : last = '\x60'
  · simp [withoutBacktick, hname, hmark]
  · simp only [hmark, if_false]
    rw [← List.reverse_concat, List.reverse_reverse, ← hname, hend, String.ofList_toList]
    exact (withoutBacktick_eq_self_iff.mpr (by simpa [hname] using hmark)).symm

variable {name : String}

theorem source?_heading (h : Name.Writable name) :
    source? ("- FROM: ### Requirement: " ++ name).toList = some (withoutBacktick name) := by
  have hside : source? ("- FROM: ### Requirement: ".toList ++ name.toList) =
      some (sideName (" ### Requirement: ".toList ++ name.toList)) := rfl
  rw [String.toList_append, hside, sideName_heading h]

theorem target?_heading (h : Name.Writable name) :
    target? ("- TO: ### Requirement: " ++ name).toList = some (withoutBacktick name) := by
  have hside : target? ("- TO: ### Requirement: ".toList ++ name.toList) =
      some (sideName (" ### Requirement: ".toList ++ name.toList)) := rfl
  rw [String.toList_append, hside, sideName_heading h]

/-- The name of any requirement is read back from a heading in backticks, on either side of a
rename. From a heading without them it is read back only if it does not end with a backtick, which
it otherwise loses. -/
theorem sides_of_heading {text : String} {r : Requirement} (h : r ∈ Requirement.inText text) :
    (source? ("- FROM: `### Requirement: " ++ r.name ++ "`").toList = some r.name ∧
      target? ("- TO: `### Requirement: " ++ r.name ++ "`").toList = some r.name) ∧
    (source? ("- FROM: ### Requirement: " ++ r.name).toList = some (withoutBacktick r.name) ∧
      target? ("- TO: ### Requirement: " ++ r.name).toList = some (withoutBacktick r.name)) ∧
    (withoutBacktick r.name = r.name ↔ r.name.toList.getLast? ≠ some '\x60') := by
  have hname : Name.Writable r.name := Name.writable_iff_exists_mem_inText.mpr ⟨text, r, h, rfl⟩
  have hrename : Writable ⟨r.name, r.name, 1⟩ := ⟨hname, hname⟩
  exact ⟨⟨hrename.source?_sourceLine, hrename.target?_targetLine⟩,
    ⟨source?_heading hname, target?_heading hname⟩, withoutBacktick_eq_self_iff⟩

/-- Backticks that do not end a name stay in it. -/
theorem sides_of_heading_with_code :
    let r : Requirement := ⟨"`x` or `y` twice", 1, "", []⟩
    r ∈ Requirement.inText "### Requirement: `x` or `y` twice" ∧
      source? "- FROM: `### Requirement: `x` or `y` twice`".toList = some r.name ∧
      target? "- TO: ### Requirement: `x` or `y` twice".toList = some r.name := by
  have hmem : ⟨"`x` or `y` twice", 1, "", []⟩ ∈
      Requirement.inText "### Requirement: `x` or `y` twice" := by decide
  obtain ⟨hwrapped, hbare, -⟩ := sides_of_heading hmem
  exact ⟨hmem, hwrapped.1, hbare.2⟩

/-- A heading without backticks around it does not always give the name of a requirement. -/
theorem not_forall_sides_of_heading :
    ¬ ∀ (text : String) (r : Requirement), r ∈ Requirement.inText text →
      (source? ("- FROM: `### Requirement: " ++ r.name ++ "`").toList = some r.name ∧
        target? ("- TO: `### Requirement: " ++ r.name ++ "`").toList = some r.name) ∧
      (source? ("- FROM: ### Requirement: " ++ r.name).toList = some r.name ∧
        target? ("- TO: ### Requirement: " ++ r.name).toList = some r.name) := by
  intro h
  have hname := (h "### Requirement: Use `x`" ⟨"Use `x`", 1, "", []⟩ (by decide)).2.1
  exact absurd hname (by decide)

end Rename

end SpecReview
