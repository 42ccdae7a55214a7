import SpecReview.Proofs.Delta.Rendering
import SpecReview.Proofs.Requirement.Scenarios
import SpecReview.Proofs.Section.Headings
import SpecReview.Review.Fault

/-! # The names of blocks

A section or a requirement always has a name, as its heading would not open it without one. The
heading of a scenario needs only some character after its mark, and a blank is enough. Whether
such a heading without a name counts hangs on the lines after it: trimming takes the blank off
the last line of a requirement. -/

namespace SpecReview

open Text

/-! ## Names -/

namespace Text

/-- Whether a text has a character that is not blank. -/
def Visible (cs : List Char) : Prop :=
  ∃ c ∈ cs, isBlank c = false

instance : DecidablePred Visible :=
  fun cs => decidable_of_iff (cs.any (!isBlank ·) = true) (by simp [Visible])

theorem not_visible_iff {cs : List Char} : ¬ Visible cs ↔ ∀ c ∈ cs, isBlank c = true := by
  simp [Visible]

theorem visible_iff_trimEnd_ne_nil {cs : List Char} : Visible cs ↔ trimEnd cs ≠ [] := by
  rw [← not_iff_not, not_visible_iff, not_not, trimEnd_eq_nil_iff]

theorem all_blank_iff {ls : List (List Char)} :
    ls.all (·.all isBlank) = true ↔ ¬ ∃ l ∈ ls, Visible l := by
  simp [Visible]

end Text

theorem Line.visible_of_named? {cs : List Char} {name : String} (h : named? cs = some name) :
    Visible name.toList := by
  obtain ⟨htrim, hne⟩ := Section.named?_eq_some_iff.mp h
  rw [visible_iff_trimEnd_ne_nil, ← htrim, trim, trimEnd_trimEnd, ← trim, htrim]
  simpa using hne

theorem Section.visible_of_mem_inText {text : String} {s : Section} (h : s ∈ inText text) :
    Visible s.name.toList := by
  obtain ⟨l, -, hkind⟩ := exists_heading h
  obtain ⟨rest, -, hname⟩ :=
    Option.bind_eq_some_iff.mp (Line.kind_eq_sectionHead_iff.mp hkind)
  exact Line.visible_of_named? hname

theorem Requirement.writable_of_opening? {l : List Char} {name : String}
    (h : opening? l = some name) (hl : '\n' ∉ l) : Name.Writable name := by
  rw [opening?_eq, Line.requirementName?, Option.bind_eq_some_iff] at h
  obtain ⟨rest, hrest, hname⟩ := h
  obtain ⟨htrim, hne⟩ := Section.named?_eq_some_iff.mp hname
  obtain ⟨c, gap, -, -, rfl, -⟩ := Line.marked?_eq_some_iff.mp hrest
  refine ⟨hne, by rw [← htrim, trim_trim], fun hmem => ?_⟩
  rw [← htrim] at hmem
  simp [trim_subset rest hmem] at hl

/-- The name of a requirement can stand on a line. -/
theorem Requirement.writable_of_mem_inText {text : String} {r : Requirement} (h : r ∈ inText text) :
    Name.Writable r.name := by
  obtain ⟨b, hb, rfl⟩ := List.mem_map.mp h
  obtain ⟨l, hl, hopen⟩ := Block.exists_heading hb
  exact writable_of_opening? hopen (newline_notMem_of_lineAt hl)

theorem Requirement.visible_of_mem_inText {text : String} {r : Requirement} (h : r ∈ inText text) :
    Visible r.name.toList := by
  obtain ⟨c, cs, hname, hc⟩ := (writable_of_mem_inText h).exists_cons
  exact ⟨c, by simp [hname], hc⟩

/-! ## Marks -/

namespace Line

/-- A mark as it opens a heading: hashes, blanks and a word. -/
def Mark (level : Nat) (word : String) (cs : List Char) : Prop :=
  ∃ gap, gap ≠ [] ∧ (∀ b ∈ gap, isBlank b = true) ∧
    cs = List.replicate level '#' ++ gap ++ word.toList

theorem marked?_eq_some_iff_mark {level : Nat} {word : String} {c : Char} {ds : List Char}
    (hword : word.toList = c :: ds) (hc : isBlank c = false) {l rest : List Char} :
    marked? level word l = some rest ↔ ∃ mark, Mark level word mark ∧ l = mark ++ rest := by
  have hstart : trimStart (word.toList ++ rest) = word.toList ++ rest := by
    rw [hword]
    exact trimStart_cons_of_not_blank hc _
  rw [marked?_eq_some_iff]
  constructor
  · rintro ⟨b, gap, hb, hgap, rfl, -⟩
    refine ⟨_, ⟨b :: gap, by simp, ?_, rfl⟩, by simp⟩
    intro b' hb'
    rcases List.mem_cons.mp hb' with rfl | hb'
    · exact hb
    · exact hgap b' hb'
  · rintro ⟨_, ⟨gap, hne, hgap, rfl⟩, rfl⟩
    obtain ⟨b, gap, rfl⟩ := List.exists_cons_of_ne_nil hne
    exact ⟨b, gap, hgap b (by simp), fun b' hb' => hgap b' (List.mem_cons_of_mem b hb'),
      by simp, hstart⟩

theorem scenario_marked?_iff {l rest : List Char} : marked? 4 "Scenario:" l = some rest ↔
    ∃ mark, Mark 4 "Scenario:" mark ∧ l = mark ++ rest :=
  marked?_eq_some_iff_mark (c := 'S') rfl (by decide)

theorem named?_eq_none_of_blank {bs : List Char} (h : ∀ b ∈ bs, isBlank b = true) :
    named? bs = none := by
  have htrim : trim bs = [] := by rw [trim, trimStart_eq_nil_iff.mpr h]; rfl
  rw [named?, htrim]

end Line

/-- Two hashes with nothing but blanks after them open no section. -/
theorem Section.opening?_of_blank {bs : List Char} (h : ∀ b ∈ bs, isBlank b = true) :
    opening? ("##".toList ++ bs) = none := by
  rw [opening?_eq_none_iff]
  rintro name ⟨c, rest, hl, -, hname, hne⟩
  obtain rfl : bs = c :: rest := by simpa using hl
  have hstart : trimStart rest = [] :=
    trimStart_eq_nil_iff.mpr fun b hb => h b (List.mem_cons_of_mem c hb)
  rw [trim, hstart] at hname
  exact hne (String.toList_eq_nil_iff.mp hname.symm)

theorem Requirement.opening?_of_blank {mark bs : List Char}
    (hmark : Line.Mark 3 "Requirement:" mark) (h : ∀ b ∈ bs, isBlank b = true) :
    opening? (mark ++ bs) = none := by
  have hmarked : Line.marked? 3 "Requirement:" (mark ++ bs) = some bs :=
    (Line.marked?_eq_some_iff_mark (c := 'R') rfl (by decide)).mpr ⟨mark, hmark, rfl⟩
  rw [opening?_eq, Line.requirementName?, hmarked, Option.bind_some,
    Line.named?_eq_none_of_blank h]

/-- The mark of a scenario opens one as soon as a character follows, even a blank. -/
theorem Scenario.kind_eq_scenarioHead_iff_of_mark {mark rest : List Char}
    (hmark : Line.Mark 4 "Scenario:" mark) :
    Line.kind (mark ++ rest) = .scenarioHead ↔ rest ≠ [] := by
  have hmarked : Line.marked? 4 "Scenario:" (mark ++ rest) = some rest :=
    Line.scenario_marked?_iff.mpr ⟨mark, hmark, rfl⟩
  simp [Line.kind_eq_scenarioHead_iff, Line.isScenario_iff, hmarked]

/-! ## The ends of lines -/

namespace Text

/-- The end of a line in a trimmed text. The flag says that the lines after it are blank. -/
def lineEnd (last : Bool) (l : List Char) : List Char :=
  if last then trimEnd l else dropReturn l

theorem dropReturn_eq_nil_iff {l : List Char} : dropReturn l = [] ↔ l = [] ∨ l = ['\r'] := by
  by_cases h : l.getLast? = some '\r'
  · obtain ⟨m, rfl⟩ := List.getLast?_eq_some_iff.mp h
    simp [dropReturn]
  · have hne : l ≠ ['\r'] := by
      rintro rfl
      exact h rfl
    simp [dropReturn_of_getLast? h, hne]

theorem exists_append_of_lineEnd (last : Bool) (l : List Char) :
    ∃ bs, l = lineEnd last l ++ bs ∧ ∀ b ∈ bs, isBlank b = true := by
  cases last with
  | true => exact exists_append_of_trimEnd l
  | false => exact exists_append_of_dropReturn l

/-- What blanks at the end of a line do not matter to is the same for the line in a trimmed text. -/
theorem apply_lineEnd {α : Type} {f : List Char → α}
    (h : ∀ cs bs, (∀ b ∈ bs, isBlank b = true) → f (cs ++ bs) = f cs) (last : Bool)
    (l : List Char) : f (lineEnd last l) = f l := by
  obtain ⟨bs, hl, hbs⟩ := exists_append_of_lineEnd last l
  conv_rhs => rw [hl, h _ bs hbs]

theorem trimEnd_lineEnd (last : Bool) (l : List Char) : trimEnd (lineEnd last l) = trimEnd l :=
  apply_lineEnd (fun cs _ hbs => trimEnd_append_of_blank hbs cs) last l

/-- What ends with a character that is not blank loses nothing of it. -/
theorem lineEnd_append {d : Char} (hd : isBlank d = false) (last : Bool) (cs rest : List Char) :
    lineEnd last (cs ++ [d] ++ rest) = cs ++ [d] ++ lineEnd last rest := by
  cases last with
  | true =>
      have hend : trimEnd (cs ++ [d]) = cs ++ [d] := by simp [trimEnd_append, trimEnd, hd]
      rw [lineEnd, lineEnd, if_pos rfl, if_pos rfl, trimEnd_append, hend]
      split
      · rename_i hnil
        rw [hnil, List.append_nil]
      · rfl
  | false =>
      rw [lineEnd, lineEnd, if_neg Bool.false_ne_true, if_neg Bool.false_ne_true]
      by_cases hrest : rest = []
      · have hreturn : d ≠ '\r' := by
          rintro rfl
          exact absurd hd (by decide)
        simp [hrest, dropReturn, hreturn]
      · simp only [dropReturn, List.getLast?_append_of_ne_nil _ hrest,
          List.dropLast_append_of_ne_nil hrest]
        split <;> rfl

theorem trimLines_cons (fresh : Bool) (l : List Char) (ls : List (List Char)) :
    trimLines fresh (l :: ls) =
      lineEnd (ls.all (·.all isBlank)) (if fresh then trimStart l else l) ::
        trimLines (fresh && l.all isBlank) ls :=
  rfl

/-- Each line of a trimmed text comes from one line: the first that is not blank loses its
indentation, and the last one the blanks at its end. -/
theorem mem_trimLines_iff {fresh : Bool} {ls : List (List Char)} {m : List Char} :
    m ∈ trimLines fresh ls ↔ ∃ ahead l after, ls = ahead ++ l :: after ∧
      m = lineEnd (after.all (·.all isBlank))
        (if fresh && ahead.all (·.all isBlank) then trimStart l else l) := by
  induction ls generalizing fresh with
  | nil => simp [trimLines]
  | cons k ls ih =>
      rw [trimLines_cons, List.mem_cons, ih]
      constructor
      · rintro (rfl | ⟨ahead, l, after, rfl, rfl⟩)
        · exact ⟨[], k, ls, rfl, by simp⟩
        · exact ⟨k :: ahead, l, after, rfl, by simp [Bool.and_assoc]⟩
      · rintro ⟨ahead, l, after, heq, rfl⟩
        cases ahead with
        | nil =>
            obtain ⟨rfl, rfl⟩ := List.cons.inj heq
            exact Or.inl (by simp)
        | cons k' ahead =>
            obtain ⟨rfl, rfl⟩ := List.cons.inj heq
            exact Or.inr ⟨ahead, l, after, rfl, by simp [Bool.and_assoc]⟩

end Text

theorem Line.scenario_marked?_lineEnd (last : Bool) (l : List Char) :
    marked? 4 "Scenario:" (lineEnd last l) = (marked? 4 "Scenario:" l).map (lineEnd last) := by
  cases h : marked? 4 "Scenario:" l with
  | some rest =>
      obtain ⟨mark, hmark, rfl⟩ := scenario_marked?_iff.mp h
      refine scenario_marked?_iff.mpr ⟨mark, hmark, ?_⟩
      obtain ⟨gap, -, -, rfl⟩ := hmark
      have hword : "Scenario:".toList = "Scenario".toList ++ [':'] := by decide
      rw [hword, ← List.append_assoc, lineEnd_append (by decide)]
  | none =>
      rw [Option.map_none, Option.eq_none_iff_forall_ne_some]
      intro more hmore
      obtain ⟨mark, hmark, hend⟩ := scenario_marked?_iff.mp hmore
      obtain ⟨bs, hl, -⟩ := exists_append_of_lineEnd last l
      have hmarked : marked? 4 "Scenario:" l = some (more ++ bs) :=
        scenario_marked?_iff.mpr ⟨mark, hmark, by rw [← List.append_assoc, ← hend, ← hl]⟩
      rw [h] at hmarked
      cases hmarked

/-! ## The names of scenarios -/

/-- What follows the mark on the first line of a scenario. -/
def Scenario.name (s : String) : List Char :=
  (Line.marked? 4 "Scenario:" (heading s)).getD []

/-- A scenario mark on one of the lines, with what follows it on its line and with the lines after
that. On the first line that is not blank it may be indented. -/
def MarksScenario (ls : List (List Char)) (rest : List Char) (after : List (List Char)) : Prop :=
  ∃ ahead l, ls = ahead ++ l :: after ∧
    Line.marked? 4 "Scenario:" (if ahead.all (·.all isBlank) then trimStart l else l) = some rest

namespace Requirement

variable {text : String} {r : Requirement}

theorem exists_scenario_iff (h : r ∈ inText text) (p : List Char → Prop) :
    (∃ s ∈ r.scenarios, p (Scenario.name s)) ↔
      ∃ rest after, MarksScenario (r.blockLines text) rest after ∧
        lineEnd (after.all (·.all isBlank)) rest ≠ [] ∧ p (trimEnd rest) := by
  have hheadings : (∃ s ∈ r.scenarios, p (Scenario.name s)) ↔
      ∃ m ∈ trimLines true (r.blockLines text), Line.kind m = .scenarioHead ∧
        p ((Line.marked? 4 "Scenario:" (trimEnd m)).getD []) := by
    have hmap : (∃ s ∈ r.scenarios, p (Scenario.name s)) ↔
        ∃ m ∈ r.scenarios.map Scenario.heading, p ((Line.marked? 4 "Scenario:" m).getD []) := by
      simp [Scenario.name]
    rw [hmap, map_heading_scenarios_eq h, scenarioHeadings]
    simp [and_assoc]
  have hend (m : List Char) : Line.marked? 4 "Scenario:" (trimEnd m) =
      (Line.marked? 4 "Scenario:" m).map trimEnd := Line.scenario_marked?_lineEnd true m
  rw [hheadings]
  constructor
  · rintro ⟨m, hm, hkind, hp⟩
    obtain ⟨ahead, l, after, hls, rfl⟩ := mem_trimLines_iff.mp hm
    rw [Bool.true_and] at hkind hp
    obtain ⟨more, hne, hmore⟩ :=
      Line.isScenario_iff.mp (Line.kind_eq_scenarioHead_iff.mp hkind)
    rw [hend, hmore, Option.map_some, Option.getD_some] at hp
    rw [Line.scenario_marked?_lineEnd, Option.map_eq_some_iff] at hmore
    obtain ⟨rest, hrest, rfl⟩ := hmore
    rw [trimEnd_lineEnd] at hp
    exact ⟨rest, after, ⟨ahead, l, hls, hrest⟩, hne, hp⟩
  · rintro ⟨rest, after, ⟨ahead, l, hls, hrest⟩, hne, hp⟩
    refine ⟨_, mem_trimLines_iff.mpr ⟨ahead, l, after, hls, rfl⟩, ?_, ?_⟩
    · rw [Line.kind_eq_scenarioHead_iff, Line.isScenario_iff, Bool.true_and,
        Line.scenario_marked?_lineEnd, hrest]
      exact ⟨_, hne, rfl⟩
    · rwa [Bool.true_and, hend, Line.scenario_marked?_lineEnd, hrest, Option.map_some,
        Option.map_some, Option.getD_some, trimEnd_lineEnd]

/-- A scenario with a name is opened by a mark with something visible after it on its line. -/
theorem exists_named_iff (h : r ∈ inText text) :
    (∃ s ∈ r.scenarios, Visible (Scenario.name s)) ↔
      ∃ rest after, MarksScenario (r.blockLines text) rest after ∧ Visible rest := by
  have hvisible (rest : List Char) : Visible (trimEnd rest) ↔ Visible rest := by
    rw [visible_iff_trimEnd_ne_nil, visible_iff_trimEnd_ne_nil, trimEnd_trimEnd]
  have hkeeps (last : Bool) {rest : List Char} (hrest : Visible rest) :
      lineEnd last rest ≠ [] := by
    intro hnil
    rw [visible_iff_trimEnd_ne_nil, ← trimEnd_lineEnd last, hnil] at hrest
    exact hrest rfl
  rw [exists_scenario_iff h]
  simp only [hvisible]
  constructor
  · rintro ⟨rest, after, hmarks, -, hrest⟩
    exact ⟨rest, after, hmarks, hrest⟩
  · rintro ⟨rest, after, hmarks, hrest⟩
    exact ⟨rest, after, hmarks, hkeeps _ hrest, hrest⟩

/-- A scenario without a name is opened by a mark with blanks after it, other than one carriage
return, if a line with something visible follows in the requirement. -/
theorem exists_unnamed_iff (h : r ∈ inText text) :
    (∃ s ∈ r.scenarios, ¬ Visible (Scenario.name s)) ↔
      ∃ rest after, MarksScenario (r.blockLines text) rest after ∧ ¬ Visible rest ∧
        rest ≠ [] ∧ rest ≠ ['\r'] ∧ ∃ l ∈ after, Visible l := by
  have hend (rest : List Char) (after : List (List Char)) (hrest : ¬ Visible rest) :
      lineEnd (after.all (·.all isBlank)) rest ≠ [] ↔
        rest ≠ [] ∧ rest ≠ ['\r'] ∧ ∃ l ∈ after, Visible l := by
    have htrim : trimEnd rest = [] := by rwa [visible_iff_trimEnd_ne_nil, not_not] at hrest
    cases hafter : after.all (·.all isBlank) with
    | true => simp [lineEnd, htrim, all_blank_iff.mp hafter]
    | false =>
        have hlater : ∃ l ∈ after, Visible l := by
          by_contra hnone
          rw [all_blank_iff.mpr hnone] at hafter
          cases hafter
        simp [lineEnd, dropReturn_eq_nil_iff, hlater]
  have hblank (rest : List Char) : ¬ Visible (trimEnd rest) ↔ ¬ Visible rest := by
    rw [visible_iff_trimEnd_ne_nil, visible_iff_trimEnd_ne_nil, trimEnd_trimEnd]
  rw [exists_scenario_iff h fun cs => ¬ Visible cs]
  constructor
  · rintro ⟨rest, after, hmarks, hne, hrest⟩
    rw [hblank] at hrest
    exact ⟨rest, after, hmarks, hrest, (hend rest after hrest).mp hne⟩
  · rintro ⟨rest, after, hmarks, hrest, hopens⟩
    exact ⟨rest, after, hmarks, (hend rest after hrest).mpr hopens, (hblank rest).mpr hrest⟩

theorem noScenario_mem_faults_iff : .noScenario ∈ r.faults ↔ ∀ s, s ∉ r.scenarios := by
  have hmarkers (ms : List Marker) : Fault.noScenario ∉ ms.map .malformedScenario := by simp
  rw [← List.eq_nil_iff_forall_not_mem, faults]
  cases isNormative r.content <;> cases r.scenarios <;> cases r.onlyMalformed <;>
    simp [hmarkers]

/-- Only marks with nothing visible after them and with nothing at all, or with nothing visible on
the lines below, leave a requirement without a scenario. -/
theorem noScenario_iff_marks (h : r ∈ inText text) :
    .noScenario ∈ r.faults ↔
      ∀ rest after, MarksScenario (r.blockLines text) rest after →
        ¬ Visible rest ∧ (rest = [] ∨ rest = ['\r'] ∨ ∀ l ∈ after, ¬ Visible l) := by
  rw [noScenario_mem_faults_iff]
  constructor
  · intro hnone rest after hmarks
    have hrest : ¬ Visible rest := by
      intro hvisible
      obtain ⟨s, hs, -⟩ := (exists_named_iff h).mpr ⟨rest, after, hmarks, hvisible⟩
      exact hnone s hs
    refine ⟨hrest, ?_⟩
    by_contra hopens
    simp only [not_or, not_forall, not_not, exists_prop] at hopens
    obtain ⟨s, hs, -⟩ := (exists_unnamed_iff h).mpr ⟨rest, after, hmarks, hrest, hopens⟩
    exact hnone s hs
  · intro hall s hs
    by_cases hname : Visible (Scenario.name s)
    · obtain ⟨rest, after, hmarks, hrest⟩ := (exists_named_iff h).mp ⟨s, hs, hname⟩
      exact (hall rest after hmarks).1 hrest
    · obtain ⟨rest, after, hmarks, -, hne, hreturn, l, hl, hvisible⟩ :=
        (exists_unnamed_iff h).mp ⟨s, hs, hname⟩
      rcases (hall rest after hmarks).2 with hnil | hnil | hblank
      · exact hne hnil
      · exact hreturn hnil
      · exact hblank l hl hvisible

/-- How the blocks of a text come by their names: sections and requirements always have one, and
scenarios have it or not as the marks in the block of their requirement do. -/
structure NamedByMarks (text : String) : Prop where
  sections : ∀ s ∈ Section.inText text, Visible s.name.toList
  requirements : ∀ r ∈ inText text, Visible r.name.toList
  named : ∀ r ∈ inText text, (∃ s ∈ r.scenarios, Visible (Scenario.name s)) ↔
    ∃ rest after, MarksScenario (r.blockLines text) rest after ∧ Visible rest
  unnamed : ∀ r ∈ inText text, (∃ s ∈ r.scenarios, ¬ Visible (Scenario.name s)) ↔
    ∃ rest after, MarksScenario (r.blockLines text) rest after ∧ ¬ Visible rest ∧
      rest ≠ [] ∧ rest ≠ ['\r'] ∧ ∃ l ∈ after, Visible l
  noScenario : ∀ r ∈ inText text, .noScenario ∈ r.faults ↔
    ∀ rest after, MarksScenario (r.blockLines text) rest after →
      ¬ Visible rest ∧ (rest = [] ∨ rest = ['\r'] ∨ ∀ l ∈ after, ¬ Visible l)

/-- Sections and requirements always have a name, and scenarios have one or not as their marks do.
For a mark with only blanks after it opens no section and no requirement, but it opens a scenario
if there is a blank at all. Trimming can still take that blank away, so that the scenarios without
a name are those that something visible follows. -/
theorem named_by_marks (text : String) :
    NamedByMarks text ∧ ∀ bs, (∀ b ∈ bs, isBlank b = true) →
      Section.opening? ("##".toList ++ bs) = none ∧
      (∀ mark, Line.Mark 3 "Requirement:" mark → opening? (mark ++ bs) = none) ∧
      ∀ mark, Line.Mark 4 "Scenario:" mark →
        (Line.kind (mark ++ bs) = .scenarioHead ↔ bs ≠ []) := by
  constructor
  · exact ⟨fun s => Section.visible_of_mem_inText, fun r => visible_of_mem_inText,
      fun r => exists_named_iff, fun r => exists_unnamed_iff, fun r => noScenario_iff_marks⟩
  · intro bs hbs
    refine ⟨Section.opening?_of_blank hbs, ?_, ?_⟩
    · intro mark hmark
      exact opening?_of_blank hmark hbs
    · intro mark hmark
      exact Scenario.kind_eq_scenarioHead_iff_of_mark hmark

/-- The heading of the only scenario is a mark with a blank. -/
theorem not_forall_visible_name :
    ¬ ∀ text : String, ∀ r ∈ inText text, ∀ s ∈ r.scenarios, Visible (Scenario.name s) := by
  intro h
  exact absurd (h "### Requirement: A\n#### Scenario: \nx" ⟨"A", 1, "#### Scenario: \nx", []⟩
    (by decide) "#### Scenario: \nx" (by decide)) (by decide)

end Requirement

end SpecReview
