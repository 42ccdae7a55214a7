import SpecReview.Proofs.Requirement.Position

/-! # The scenarios of a requirement and the lines of its block

The scenarios are read from the trimmed content of a requirement, not from the lines of its block.
What trimming changes in a line, it can change in what the line is: the first line may lose its
indentation, and with it become a scenario heading, and a heading without a name is none once the
blanks after its mark are gone. -/

namespace SpecReview

open Text

/-! ## The lines of a trimmed text -/

namespace Text

/-- Lines as they stand in their text once it is trimmed and cut into lines again. Blank lines at
the ends of the text are kept, without their blanks. The flag says that the lines before are
blank. -/
def trimLines : Bool → List (List Char) → List (List Char)
  | _, [] => []
  | fresh, l :: ls =>
    let start := if fresh then trimStart l else l
    (if ls.all (·.all isBlank) then trimEnd start else dropReturn start) ::
      trimLines (fresh && l.all isBlank) ls

theorem exists_append_of_dropReturn (l : List Char) :
    ∃ bs, l = dropReturn l ++ bs ∧ ∀ b ∈ bs, isBlank b = true := by
  by_cases h : l.getLast? = some '\r'
  · obtain ⟨m, rfl⟩ := List.getLast?_eq_some_iff.mp h
    exact ⟨['\r'], by simp [dropReturn], by simp⟩
  · exact ⟨[], by simp [dropReturn, h], by simp⟩

theorem blank_joinLines_iff {ls : List (List Char)} :
    (∀ c ∈ joinLines ls, isBlank c = true) ↔ ∀ l ∈ ls, ∀ c ∈ l, isBlank c = true := by
  constructor
  · exact fun h l hl c hc => h c (mem_joinLines hl hc)
  · intro h c hc
    rcases of_mem_joinLines hc with rfl | ⟨l, hl, hc⟩
    · exact isBlank_newline
    · exact h l hl c hc

theorem trimEnd_joinLines_cons (l : List Char) (ls : List (List Char)) :
    trimEnd (joinLines (l :: ls)) =
      if trimEnd (joinLines ls) = [] then trimEnd l
      else l ++ '\n' :: trimEnd (joinLines ls) := by
  cases ls with
  | nil => simp [joinLines, trimEnd]
  | cons m ls =>
      rw [joinLines, trimEnd_append, trimEnd]
      cases trimEnd (joinLines (m :: ls)) with
      | nil => simp
      | cons c cs => simp

theorem trimStart_ne_nil_of_not_blank {l : List Char} (h : l.all isBlank = false) :
    trimStart l ≠ [] := by
  rw [ne_eq, trimStart_eq_nil_iff, ← List.all_eq_true, h]
  exact Bool.false_ne_true

theorem newline_notMem_trimStart_cons {l : List Char} {ls : List (List Char)}
    (h : ∀ k ∈ l :: ls, '\n' ∉ k) : ∀ k ∈ trimStart l :: ls, '\n' ∉ k := by
  intro k hk
  rcases List.mem_cons.mp hk with rfl | hk
  · exact fun hmem => h l (by simp) (trimStart_subset l hmem)
  · exact h k (List.mem_cons_of_mem l hk)

theorem trim_joinLines_cons {l : List Char} (h : trimStart l ≠ []) (ls : List (List Char)) :
    trim (joinLines (l :: ls)) = trimEnd (joinLines (trimStart l :: ls)) := by
  cases ls with
  | nil => rfl
  | cons m ls => rw [joinLines, trim, trimStart_append, if_neg h, joinLines]

theorem trim_joinLines_cons_of_blank {l : List Char} (h : l.all isBlank = true)
    (ls : List (List Char)) : trim (joinLines (l :: ls)) = trim (joinLines ls) := by
  have hstart : trimStart l = [] := trimStart_eq_nil_iff.mpr (List.all_eq_true.mp h)
  cases ls with
  | nil =>
      have hline : joinLines [l] = l := rfl
      rw [hline, trim, hstart]
      rfl
  | cons k ls =>
      rw [joinLines, trim, trimStart_append, if_pos hstart, trim]
      simp [trimStart]

/-- After a line that is not blank, trimming works on the end of the text only. -/
theorem exists_trimLines_false {ls : List (List Char)} (h : ∀ l ∈ ls, '\n' ∉ l) :
    ∃ n, trimLines false ls = lines (trimEnd (joinLines ls)) ++ List.replicate n [] := by
  induction ls with
  | nil => exact ⟨0, rfl⟩
  | cons l ls ih =>
      obtain ⟨n, ih⟩ := ih fun m hm => h m (List.mem_cons_of_mem l hm)
      have hrest : ls.all (·.all isBlank) = true ↔ trimEnd (joinLines ls) = [] := by
        rw [trimEnd_eq_nil_iff, blank_joinLines_iff]
        simp
      rw [trimLines, trimEnd_joinLines_cons, Bool.false_and, ih]
      by_cases hnil : trimEnd (joinLines ls) = []
      · rw [if_pos (hrest.mpr hnil), if_pos hnil, hnil]
        by_cases hl : trimEnd l = []
        · exact ⟨n + 1, by simp [hl, lines, List.replicate_succ]⟩
        · have hnewline : '\n' ∉ trimEnd l :=
            fun hmem => h l (by simp) ((isPrefix_trimEnd l).subset hmem)
          exact ⟨n, by simp [lines_of_newline_notMem hl hnewline, lines]⟩
      · rw [if_neg (fun hall => hnil (hrest.mp hall)), if_neg hnil,
          lines_append_newline_eq (h l (by simp))]
        exact ⟨n, rfl⟩

theorem trimLines_true_of_blank {l : List Char} (h : l.all isBlank = true)
    (ls : List (List Char)) : trimLines true (l :: ls) = [] :: trimLines true ls := by
  have hstart : trimStart l = [] := trimStart_eq_nil_iff.mpr (List.all_eq_true.mp h)
  simp [trimLines, hstart, h, trimEnd, dropReturn]

theorem trimLines_true_of_not_blank {l : List Char} (h : l.all isBlank = false)
    (ls : List (List Char)) : trimLines true (l :: ls) = trimLines false (trimStart l :: ls) := by
  simp [trimLines, h]

/-- The lines of a trimmed text are the trimmed lines, but for empty ones at the ends. -/
theorem exists_trimLines_true {ls : List (List Char)} (h : ∀ l ∈ ls, '\n' ∉ l) :
    ∃ m n, trimLines true ls =
      List.replicate m [] ++ lines (trim (joinLines ls)) ++ List.replicate n [] := by
  induction ls with
  | nil => exact ⟨0, 0, rfl⟩
  | cons l ls ih =>
      cases hl : l.all isBlank with
      | true =>
          obtain ⟨m, n, ih⟩ := ih fun k hk => h k (List.mem_cons_of_mem l hk)
          rw [trimLines_true_of_blank hl, trim_joinLines_cons_of_blank hl, ih]
          exact ⟨m + 1, n, rfl⟩
      | false =>
          obtain ⟨n, hn⟩ := exists_trimLines_false (newline_notMem_trimStart_cons h)
          rw [trimLines_true_of_not_blank hl,
            trim_joinLines_cons (trimStart_ne_nil_of_not_blank hl), hn]
          exact ⟨0, n, rfl⟩

end Text

/-! ## Scenario headings -/

/-- The scenario headings among lines, up to the blanks they end with. -/
def scenarioHeadings (ls : List (List Char)) : List (List Char) :=
  (ls.filter (Line.kind · = .scenarioHead)).map trimEnd

namespace Line

theorem kind_ne_scenarioHead_of_blank {l : List Char} (h : l.all isBlank = true) :
    kind l ≠ .scenarioHead := by
  intro hkind
  have hhashes := hashes_of_isScenario (kind_eq_scenarioHead_iff.mp hkind)
  cases l with
  | nil => simp [hashes] at hhashes
  | cons c l =>
      rw [hashes_of_blank (List.all_eq_true.mp h c (by simp))] at hhashes
      omega

/-- A scenario heading is not indented. -/
theorem trimStart_of_scenarioHead {l : List Char} (h : kind l = .scenarioHead) :
    trimStart l = l := by
  obtain ⟨rest, -, hmarked⟩ := isScenario_iff.mp (kind_eq_scenarioHead_iff.mp h)
  obtain ⟨c, gap, -, -, rfl, -⟩ := marked?_eq_some_iff.mp hmarked
  exact trimStart_cons_of_not_blank (by decide) _

/-- A scenario heading is still one with more at its end. -/
theorem kind_append_of_scenarioHead {l : List Char} (h : kind l = .scenarioHead)
    (bs : List Char) : kind (l ++ bs) = .scenarioHead := by
  obtain ⟨rest, hrest, hmarked⟩ := isScenario_iff.mp (kind_eq_scenarioHead_iff.mp h)
  obtain ⟨c, gap, hc, hgap, rfl, -⟩ := marked?_eq_some_iff.mp hmarked
  rw [kind_eq_scenarioHead_iff, isScenario_iff]
  refine ⟨rest ++ bs, by simp [hrest], marked?_eq_some_iff.mpr ⟨c, gap, hc, hgap, by simp, ?_⟩⟩
  exact trimStart_cons_of_not_blank (by decide) _

theorem kind_append_of_blank {l bs : List Char} (hbs : ∀ b ∈ bs, isBlank b = true)
    (h : kind (l ++ bs) = .scenarioHead → kind (trimEnd (l ++ bs)) = .scenarioHead) :
    kind (l ++ bs) = .scenarioHead ↔ kind l = .scenarioHead := by
  refine ⟨fun hkind => ?_, fun hkind => kind_append_of_scenarioHead hkind bs⟩
  obtain ⟨cs, hl, -⟩ := exists_append_of_trimEnd l
  rw [hl]
  have htrim := h hkind
  rw [trimEnd_append_of_blank hbs] at htrim
  exact kind_append_of_scenarioHead htrim cs

end Line

theorem scenarioHeadings_cons_of_ne {l : List Char} (h : Line.kind l ≠ .scenarioHead)
    (ls : List (List Char)) : scenarioHeadings (l :: ls) = scenarioHeadings ls := by
  simp [scenarioHeadings, h]

theorem scenarioHeadings_cons_congr {l m : List Char} {ls ms : List (List Char)}
    (hkind : Line.kind l = .scenarioHead ↔ Line.kind m = .scenarioHead)
    (htrim : trimEnd l = trimEnd m) (h : scenarioHeadings ls = scenarioHeadings ms) :
    scenarioHeadings (l :: ls) = scenarioHeadings (m :: ms) := by
  by_cases hl : Line.kind l = .scenarioHead
  · simpa [scenarioHeadings, hl, hkind.mp hl, htrim] using h
  · have hm : ¬ Line.kind m = .scenarioHead := fun hm => hl (hkind.mpr hm)
    rw [scenarioHeadings_cons_of_ne hl, scenarioHeadings_cons_of_ne hm, h]

theorem scenarioHeadings_trim {ls : List (List Char)} (h : ∀ l ∈ ls, '\n' ∉ l) :
    scenarioHeadings (lines (trim (joinLines ls))) = scenarioHeadings (trimLines true ls) := by
  have hnil : ¬ Line.kind [] = .scenarioHead := Line.kind_ne_scenarioHead_of_blank rfl
  obtain ⟨m, n, heq⟩ := exists_trimLines_true h
  rw [heq]
  simp [scenarioHeadings, hnil]

/-- What trimming leaves as it is among the scenario headings of lines. -/
@[mk_iff]
structure SteadyHeadings (ls : List (List Char)) : Prop where
  /-- The first line that is not blank is a heading if it would be one without its indentation. -/
  unindented : ∀ l ∈ (ls.dropWhile (·.all isBlank)).head?,
    Line.kind (trimStart l) = .scenarioHead → Line.kind l = .scenarioHead
  /-- No heading becomes another line without the blanks at its end. -/
  named : ∀ l ∈ ls, Line.kind l = .scenarioHead → Line.kind (trimEnd l) = .scenarioHead

instance (ls : List (List Char)) : Decidable (SteadyHeadings ls) :=
  decidable_of_iff' _ (steadyHeadings_iff ls)

theorem scenarioHeadings_trimLines_false {ls : List (List Char)}
    (h : ∀ l ∈ ls, Line.kind l = .scenarioHead → Line.kind (trimEnd l) = .scenarioHead) :
    scenarioHeadings (trimLines false ls) = scenarioHeadings ls := by
  induction ls with
  | nil => rfl
  | cons l ls ih =>
      have ih := ih fun m hm => h m (List.mem_cons_of_mem l hm)
      have hl := h l (by simp)
      -- Either way a line loses blanks at its end and nothing else.
      have hstep {m : List Char} (hm : ∃ bs, l = m ++ bs ∧ ∀ b ∈ bs, isBlank b = true) :
          scenarioHeadings (m :: trimLines false ls) = scenarioHeadings (l :: ls) := by
        obtain ⟨bs, rfl, hbs⟩ := hm
        exact scenarioHeadings_cons_congr (Line.kind_append_of_blank hbs hl).symm
          (trimEnd_append_of_blank hbs m).symm ih
      rw [trimLines]
      cases ls.all (·.all isBlank) with
      | true => exact hstep (exists_append_of_trimEnd l)
      | false => exact hstep (exists_append_of_dropReturn l)

theorem SteadyHeadings.scenarioHeadings_trimLines {ls : List (List Char)} (h : SteadyHeadings ls) :
    scenarioHeadings (trimLines true ls) = scenarioHeadings ls := by
  induction ls with
  | nil => rfl
  | cons l ls ih =>
      have hnamed := h.named
      have hunindented := h.unindented
      cases hl : l.all isBlank with
      | true =>
          rw [List.dropWhile_cons_of_pos (by simpa using hl)] at hunindented
          rw [trimLines_true_of_blank hl,
            scenarioHeadings_cons_of_ne (Line.kind_ne_scenarioHead_of_blank rfl),
            scenarioHeadings_cons_of_ne (Line.kind_ne_scenarioHead_of_blank hl)]
          exact ih ⟨hunindented, fun m hm => hnamed m (List.mem_cons_of_mem l hm)⟩
      | false =>
          rw [List.dropWhile_cons_of_neg (by simp [hl])] at hunindented
          have hstart (hkind : Line.kind (trimStart l) = .scenarioHead) : trimStart l = l :=
            Line.trimStart_of_scenarioHead (hunindented l rfl hkind)
          have hnamed : ∀ m ∈ trimStart l :: ls,
              Line.kind m = .scenarioHead → Line.kind (trimEnd m) = .scenarioHead := by
            intro m hm hkind
            rcases List.mem_cons.mp hm with rfl | hm
            · have hline := hstart hkind
              rw [hline] at hkind ⊢
              exact hnamed l (by simp) hkind
            · exact hnamed m (List.mem_cons_of_mem l hm) hkind
          rw [trimLines_true_of_not_blank hl, scenarioHeadings_trimLines_false hnamed]
          by_cases hkind : Line.kind l = .scenarioHead
          · rw [Line.trimStart_of_scenarioHead hkind]
          · rw [scenarioHeadings_cons_of_ne hkind,
              scenarioHeadings_cons_of_ne fun hs => hkind (hunindented l rfl hs)]

/-! ## Scenarios -/

namespace Scenario

/-- The first line of a scenario, up to the blanks it ends with. -/
def heading (s : String) : List Char :=
  trimEnd (s.toList.takeWhile (· ≠ '\n'))

theorem takeWhile_of_newline_notMem {l : List Char} (h : '\n' ∉ l) :
    l.takeWhile (· ≠ '\n') = l := by
  rw [List.takeWhile_eq_self_iff]
  intro c hc
  have hne : c ≠ '\n' := ne_of_mem_of_not_mem hc h
  simpa using hne

theorem heading_ofBlock {b : Block (List Char)} (hhead : Line.kind b.head = .scenarioHead)
    (hnewline : '\n' ∉ b.head) : heading (ofBlock b) = trimEnd b.head := by
  have hstart : trimStart b.head = b.head := Line.trimStart_of_scenarioHead hhead
  have hne : b.head ≠ [] := by
    intro hnil
    rw [hnil] at hhead
    exact Line.kind_ne_scenarioHead_of_blank rfl hhead
  rw [heading, ofBlock, String.toList_ofList, trim_joinLines_cons (by rwa [hstart]), hstart,
    trimEnd_joinLines_cons]
  split
  · have hshort : '\n' ∉ trimEnd b.head :=
      fun hmem => hnewline ((isPrefix_trimEnd b.head).subset hmem)
    rw [takeWhile_of_newline_notMem hshort, trimEnd_trimEnd]
  · rw [List.takeWhile_append, takeWhile_of_newline_notMem hnewline]
    simp

/-- Every scenario heading of a text opens a scenario, which starts with it, and nothing else
does. -/
theorem map_heading_inText (text : String) :
    (inText text).map heading = scenarioHeadings (lines text.toList) := by
  have hheads : (Block.all opening? closes 1 (lines text.toList)).map (·.head) =
      (lines text.toList).filter (Line.kind · = .scenarioHead) := by
    have hopening : opening? = Option.guard fun l => decide (Line.kind l = .scenarioHead) := by
      funext l
      simp [opening?, Option.guard]
    rw [Block.all, Block.map_head_cut, hopening, List.filterMap_eq_filter]
  rw [inText, List.map_map, scenarioHeadings, ← hheads, List.map_map]
  apply List.map_congr_left
  intro b hb
  have hmem : b.head ∈ (lines text.toList).filter (Line.kind · = .scenarioHead) := by
    rw [← hheads]
    exact List.mem_map_of_mem hb
  obtain ⟨hline, hkind⟩ := List.mem_filter.mp hmem
  exact heading_ofBlock (of_decide_eq_true hkind) (newline_notMem_of_mem_lines hline)

end Scenario

namespace Requirement

theorem map_heading_scenarios_eq {text : String} {r : Requirement} (h : r ∈ inText text) :
    r.scenarios.map Scenario.heading = scenarioHeadings (trimLines true (r.blockLines text)) := by
  rw [← scenarioHeadings_trim (newline_notMem_of_mem_blockLines h), ← content_eq h, scenarios,
    Scenario.map_heading_inText]

/-- The scenarios of a requirement start with the scenario headings of its block as they are once
the block is trimmed, one each, in order. Trimming leaves the headings as they are if the first
line does not become a heading without its indentation and every heading has a name. -/
theorem map_heading_scenarios {text : String} {r : Requirement} (h : r ∈ inText text) :
    r.scenarios.map Scenario.heading = scenarioHeadings (trimLines true (r.blockLines text)) ∧
      (SteadyHeadings (r.blockLines text) →
        r.scenarios.map Scenario.heading = scenarioHeadings (r.blockLines text)) := by
  have htrimmed := map_heading_scenarios_eq h
  exact ⟨htrimmed, fun hsteady => htrimmed.trans hsteady.scenarioHeadings_trimLines⟩

theorem map_heading_scenarios_of_two :
    let text := "### Requirement: A\n\n#### Scenario: one \ntext\n#### Scenario: two\n## B"
    ∃ r ∈ inText text, SteadyHeadings (r.blockLines text) ∧
      r.scenarios.map Scenario.heading = scenarioHeadings (r.blockLines text) := by
  intro text
  refine ⟨⟨"A", 1, "#### Scenario: one \ntext\n#### Scenario: two", []⟩, ?_, ?_, ?_⟩
  · decide
  · decide
  · exact (map_heading_scenarios (by decide)).2 (by decide)

theorem not_forall_map_heading_scenarios :
    ¬ ∀ text : String, ∀ r ∈ inText text,
      r.scenarios.map Scenario.heading = scenarioHeadings (r.blockLines text) := by
  intro h
  exact absurd (h "### Requirement: A\n #### Scenario: x" ⟨"A", 1, "#### Scenario: x", []⟩
    (by decide)) (by decide)

end Requirement

end SpecReview
