import SpecReview.Proofs.Requirement.Names

/-! # Requirements written back

A requirement is written back as its heading with its content below. The content has lost the
indentation of its first line, which can make that line a heading, and a heading ends the
requirement when the text is read again. Nothing else is in the way of reading back what was
written: the blanks at the end of a line change neither what the line is to a requirement nor
whether it marks a scenario. -/

namespace SpecReview

open Text

/-! ## Lines that go on with a requirement -/

namespace Line

theorem hashes_lineEnd (last : Bool) (l : List Char) : hashes (lineEnd last l) = hashes l :=
  apply_lineEnd (fun cs _ hbs => hashes_append_of_blank hbs cs) last l

theorem isMalformedScenario_lineEnd (last : Bool) (l : List Char) :
    isMalformedScenario (lineEnd last l) = isMalformedScenario l :=
  apply_lineEnd (fun cs _ hbs => isMalformedScenario_append_of_blank hbs cs) last l

end Line

namespace Requirement

/-- The number of its hashes tells whether a line goes on with a requirement, except that three of
them may mark a scenario. -/
theorem unbroken_iff {l : List Char} : opening? l = none ∧ closes l = false ↔
    Line.hashes l ≠ 2 ∧ (Line.hashes l = 3 → Line.isMalformedScenario l = true) := by
  rw [← Line.level_eq_hashes, ← Line.kind_eq_malformedScenario_iff]
  cases h : Line.kind l with
  | sectionHead name => simp [closes, Line.level, h]
  | requirementHead name => simp [opening?, Line.level, h]
  | scenarioHead => simp [opening?, closes, Line.level, h]
  | malformedScenario =>
      have hhashes := Line.hashes_of_isMalformedScenario (Line.kind_eq_malformedScenario_iff.mp h)
      have htwo : Line.hashes l ≠ 2 := by
        intro htwo
        simp [htwo] at hhashes
      simp [opening?, closes, Line.level, h, htwo]
  | heading n => simp [opening?, closes, Line.level, h]
  | text => simp [opening?, closes, Line.level, h]

theorem unbroken_lineEnd_iff (last : Bool) (l : List Char) :
    opening? (lineEnd last l) = none ∧ closes (lineEnd last l) = false ↔
      opening? l = none ∧ closes l = false := by
  rw [unbroken_iff, unbroken_iff, Line.hashes_lineEnd, Line.isMalformedScenario_lineEnd]

end Requirement

/-! ## Lines that mark a scenario -/

/-- The texts of the malformed scenario markers among lines. -/
def markerTexts (ls : List (List Char)) : List String :=
  (ls.filter (Line.kind · = .malformedScenario)).map fun l => String.ofList (trim l)

theorem markerTexts_cons_congr {l m : List Char} {ls ms : List (List Char)}
    (hmarks : Line.isMalformedScenario l = Line.isMalformedScenario m) (htrim : trim l = trim m)
    (h : markerTexts ls = markerTexts ms) : markerTexts (l :: ls) = markerTexts (m :: ms) := by
  unfold markerTexts at h ⊢
  by_cases hm : Line.kind m = .malformedScenario
  · have hl : Line.kind l = .malformedScenario := by
      rwa [Line.kind_eq_malformedScenario_iff, hmarks, ← Line.kind_eq_malformedScenario_iff]
    simp [hl, hm, htrim, h]
  · have hl : ¬ Line.kind l = .malformedScenario := by
      rwa [Line.kind_eq_malformedScenario_iff, hmarks, ← Line.kind_eq_malformedScenario_iff]
    simp [hl, hm, h]

theorem markerTexts_trimLines (fresh : Bool) (ls : List (List Char)) :
    markerTexts (trimLines fresh ls) = markerTexts ls := by
  induction ls generalizing fresh with
  | nil => rfl
  | cons l ls ih =>
      have hstart : Line.isMalformedScenario (if fresh then trimStart l else l) =
          Line.isMalformedScenario l ∧ trim (if fresh then trimStart l else l) = trim l := by
        cases fresh with
        | true => simp [Line.isMalformedScenario_trimStart, trim]
        | false => simp
      rw [trimLines_cons]
      apply markerTexts_cons_congr _ _ (ih _)
      · rw [Line.isMalformedScenario_lineEnd, hstart.1]
      · rw [apply_lineEnd fun cs _ hbs => trim_append_of_blank hbs cs, hstart.2]

/-- Trimming a text takes no markers off it. -/
theorem markerTexts_trim {ls : List (List Char)} (h : ∀ l ∈ ls, '\n' ∉ l) :
    markerTexts (lines (trim (joinLines ls))) = markerTexts ls := by
  have hnil : ¬ Line.kind [] = .malformedScenario := by decide
  obtain ⟨m, n, heq⟩ := exists_trimLines_true h
  rw [← markerTexts_trimLines true ls, heq]
  simp [markerTexts, hnil]

/-! ## The lines of a content -/

/-- The first line of a trimmed text is the first line that is not blank without its indentation,
the others come from lines as they are, each up to the blanks at its end. -/
theorem exists_line_of_trim {ls : List (List Char)} (h : ∀ l ∈ ls, '\n' ∉ l) :
    (∀ m ∈ (lines (trim (joinLines ls))).head?,
      ∃ last, ∃ l ∈ (ls.dropWhile (·.all isBlank)).head?, m = lineEnd last (trimStart l)) ∧
    ∀ m ∈ (lines (trim (joinLines ls))).tail, ∃ last, ∃ l ∈ ls, m = lineEnd last l := by
  induction ls with
  | nil => simp [joinLines, trim, trimStart, trimEnd, lines]
  | cons l ls ih =>
      cases hl : l.all isBlank with
      | true =>
          obtain ⟨hhead, htail⟩ := ih fun k hk => h k (List.mem_cons_of_mem l hk)
          rw [trim_joinLines_cons_of_blank hl, List.dropWhile_cons_of_pos (by simpa using hl)]
          refine ⟨hhead, fun m hm => ?_⟩
          obtain ⟨last, k, hk, rfl⟩ := htail m hm
          exact ⟨last, k, List.mem_cons_of_mem l hk, rfl⟩
      | false =>
          -- This line comes first, and after it only the ends of lines change.
          obtain ⟨n, hn⟩ := exists_trimLines_false (newline_notMem_trimStart_cons h)
          rw [← trim_joinLines_cons (trimStart_ne_nil_of_not_blank hl), trimLines_cons] at hn
          rw [List.dropWhile_cons_of_neg (by simp [hl])]
          cases hlines : lines (trim (joinLines (l :: ls))) with
          | nil => simp
          | cons m ms =>
              rw [hlines, List.cons_append] at hn
              obtain ⟨hm, hms⟩ := List.cons.inj hn
              constructor
              · rintro _ ⟨⟩
                exact ⟨ls.all (·.all isBlank), l, rfl, hm.symm⟩
              · intro k hk
                have hmem : k ∈ trimLines false ls := by
                  have hms : trimLines false ls = ms ++ List.replicate n [] := hms
                  rw [hms]
                  exact List.mem_append_left _ hk
                obtain ⟨ahead, l', after, rfl, rfl⟩ := mem_trimLines_iff.mp hmem
                exact ⟨after.all (·.all isBlank), l', by simp, rfl⟩

namespace Requirement

variable {text : String} {r : Requirement}

theorem map_text_markers (h : r ∈ inText text) :
    r.markers.map (·.text) = markerTexts (lines r.content.toList) := by
  rw [content_eq h, markerTexts_trim (newline_notMem_of_mem_blockLines h)]
  obtain ⟨b, -, rfl, hbody⟩ := exists_block_of_mem_inText h
  rw [ofBlock, Block.numbered, map_text_markersIn, hbody]
  rfl

theorem return_notMem_content (hreturn : '\r' ∉ text.toList) (h : r ∈ inText text) :
    '\r' ∉ r.content.toList := by
  rw [content_eq h]
  intro hmem
  rcases of_mem_joinLines (trim_subset _ hmem) with hnewline | ⟨l, hl, hmem⟩
  · exact absurd hnewline (by decide)
  · exact hreturn (mem_of_mem_lines (of_mem_blockLines h hl).1 hmem)

/-- Of the lines of a content only the first can break the requirement. -/
theorem writable_iff_of_mem_inText (hreturn : '\r' ∉ text.toList) (h : r ∈ inText text) :
    r.Writable ↔ ∀ l ∈ (lines r.content.toList).head?, opening? l = none ∧ closes l = false := by
  constructor
  · exact fun hwritable l hl => hwritable.unbroken l (List.mem_of_head? hl)
  · intro hhead
    refine ⟨writable_of_mem_inText h, ?_, return_notMem_content hreturn h, fun l hl => ?_⟩
    · rw [content_eq h, trim_trim]
    · have htail := (exists_line_of_trim (newline_notMem_of_mem_blockLines h)).2
      rw [← content_eq h] at htail
      cases hlines : lines r.content.toList with
      | nil => simp [hlines] at hl
      | cons m ms =>
          rw [hlines] at hl hhead htail
          rcases List.mem_cons.mp hl with rfl | hl
          · exact hhead l rfl
          · obtain ⟨last, k, hk, rfl⟩ := htail l hl
            exact (unbroken_lineEnd_iff last k).mpr (of_mem_blockLines h hk).2

/-- Without indentation to lose, the first line is one of the block. -/
theorem unbroken_head_of_unindented (h : r ∈ inText text)
    (hindent : ∀ l ∈ ((r.blockLines text).dropWhile (·.all isBlank)).head?, trimStart l = l) :
    ∀ l ∈ (lines r.content.toList).head?, opening? l = none ∧ closes l = false := by
  intro l hl
  rw [content_eq h] at hl
  obtain ⟨last, k, hk, rfl⟩ :=
    (exists_line_of_trim (newline_notMem_of_mem_blockLines h)).1 l hl
  have hmem : k ∈ r.blockLines text :=
    (List.dropWhile_suffix _).subset (List.mem_of_head? hk)
  rw [hindent k hk, unbroken_lineEnd_iff]
  exact (of_mem_blockLines h hmem).2

/-! ## Reading back -/

/-- A requirement as text: its heading, and its content on the lines below. -/
def written (r : Requirement) : String :=
  "### Requirement: " ++ r.name ++ "\n" ++ r.content

/-- The only requirement of the text that another is written as, if it is the same but for the
numbers of its lines. -/
structure IsReadAs (r r' : Requirement) : Prop where
  only : inText r.written = [r']
  name : r'.name = r.name
  content : r'.content = r.content
  scenarios : r'.scenarios = r.scenarios
  markers : r'.markers.map (·.text) = r.markers.map (·.text)

/-- Whether a requirement is read back from its text as it was. -/
def Survives (r : Requirement) : Prop :=
  ∃ r', r.IsReadAs r'

theorem lines_written (h : Name.Writable r.name) :
    lines r.written.toList = r.headLine :: lines r.content.toList := by
  have htext : r.written = "### Requirement: " ++ r.name ++ "\n" ++ r.content := rfl
  have hwritten : r.written.toList = (r.headLine ++ ['\n']) ++ r.content.toList := by
    rw [htext]
    simp [headLine]
  rw [hwritten, wholeLines_headLine h, List.singleton_append]

/-- The text of a requirement has that requirement with the lines of the content up to the first
that breaks it, and the requirements among the lines from there on. -/
theorem inText_written (h : Name.Writable r.name) :
    inText r.written =
      ofBlock ⟨r.name, 1, (lines r.content.toList).takeWhile (Block.continues opening? closes)⟩ ::
        inLines 2 (lines r.content.toList) := by
  rw [inText, lines_written h, inLines, Block.all, Block.cut, opening?_headLine h,
    ← Block.cut_fst_eq_takeWhile opening? closes 2]
  rfl

theorem Writable.survives (h : r.Writable)
    (hmarkers : r.markers.map (·.text) = markerTexts (lines r.content.toList)) : r.Survives := by
  have hbody : (lines r.content.toList).takeWhile (Block.continues opening? closes) =
      lines r.content.toList := by
    rw [List.takeWhile_eq_self_iff]
    intro l hl
    obtain ⟨hopen, hclose⟩ := h.unbroken l hl
    simp [Block.continues, hopen, hclose]
  have hrest : inLines 2 (lines r.content.toList) = [] := by
    have hcut := Block.cut_append h.unbroken 2 []
    rw [List.append_nil] at hcut
    rw [inLines, Block.all, hcut]
    rfl
  have honly := inText_written h.name
  rw [hbody, hrest] at honly
  have hcontent : (ofBlock ⟨r.name, 1, lines r.content.toList⟩).content = r.content := by
    rw [ofBlock, h.joinLines_lines_content, h.trimmed, String.ofList_toList]
  refine ⟨_, honly, rfl, hcontent, by rw [scenarios, hcontent, scenarios], ?_⟩
  rw [hmarkers, ofBlock, Block.numbered, map_text_markersIn]
  rfl

/-- A first line that breaks the requirement leaves nothing of the content. -/
theorem Survives.unbroken_head (h : r.Survives) (hname : Name.Writable r.name) :
    ∀ l ∈ (lines r.content.toList).head?, opening? l = none ∧ closes l = false := by
  obtain ⟨r', hread⟩ := h
  obtain ⟨rfl, -⟩ := List.cons.inj ((inText_written hname).symm.trans hread.only)
  intro l hl
  cases hlines : lines r.content.toList with
  | nil => simp [hlines] at hl
  | cons m ms =>
      obtain rfl : m = l := by simpa [hlines] using hl
      by_contra hbroken
      have hcontinues : ¬ Block.continues opening? closes m = true := by
        simpa [Block.continues] using hbroken
      -- Cut at its first line, the content comes back empty, which it was not.
      have hempty := hread.content
      rw [hlines, List.takeWhile_cons_of_neg hcontinues] at hempty
      have hcontent : r.content = "" := hempty.symm
      rw [hcontent] at hlines
      cases hlines

/-- A requirement of a text without carriage returns survives being written back exactly if the
first line of its content is no heading that ends a requirement. It always does if the first line
of its block that is not blank has no indentation to lose. -/
theorem survives_iff (hreturn : '\r' ∉ text.toList) (h : r ∈ inText text) :
    (r.Survives ↔
      ∀ l ∈ (lines r.content.toList).head?, opening? l = none ∧ closes l = false) ∧
    ((∀ l ∈ ((r.blockLines text).dropWhile (·.all isBlank)).head?, trimStart l = l) →
      r.Survives) := by
  have hsurvives : r.Survives ↔
      ∀ l ∈ (lines r.content.toList).head?, opening? l = none ∧ closes l = false := by
    constructor
    · exact fun hsurvives => hsurvives.unbroken_head (writable_of_mem_inText h)
    · intro hhead
      have hwritable := (writable_iff_of_mem_inText hreturn h).mpr hhead
      exact hwritable.survives (map_text_markers h)
  exact ⟨hsurvives, fun hindent => hsurvives.mpr (unbroken_head_of_unindented h hindent)⟩

/-- An indented marker comes first, and a heading without a name ends the block. -/
theorem survives_of_indented_marker :
    let text := "## A\n### Requirement: B \n\n  ### Scenario: b \n#### Scenario: c\n\n  ## d\n## "
    let r : Requirement := ⟨"B", 2, "### Scenario: b \n#### Scenario: c\n\n  ## d",
      [⟨4, "### Scenario: b"⟩]⟩
    '\r' ∉ text.toList ∧ r ∈ inText text ∧ r.Survives := by
  intro text r
  have hreturn : '\r' ∉ text.toList := by decide
  have hmem : r ∈ inText text := by decide +kernel
  exact ⟨hreturn, hmem, (survives_iff hreturn hmem).1.mpr (by decide +kernel)⟩

/-- A heading that was indented ends the requirement once it is not. -/
theorem not_forall_survives :
    ¬ ∀ text : String, '\r' ∉ text.toList → ∀ r ∈ inText text, r.Survives := by
  intro h
  obtain ⟨r', hread⟩ := h "### Requirement: A\n ### Requirement: B" (by decide)
    ⟨"A", 1, "### Requirement: B", []⟩ (by decide)
  have htwo : (inText (written ⟨"A", 1, "### Requirement: B", []⟩)).length = 2 := by decide
  rw [hread.only] at htwo
  cases htwo

end Requirement

end SpecReview
