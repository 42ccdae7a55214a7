import Mathlib.Tactic.Common
import SpecReview.Proofs.Text.Trimming
import SpecReview.Section

/-! # The kinds of lines

A marked heading starts with just the hashes of its level, so that a line is a heading of one
kind at most. Each kind of heading can therefore be told by its own mark alone. -/

namespace SpecReview

open Text

namespace Line

/-! ## Marks -/

theorem hashes_replicate_append (level : Nat) {cs : List Char} (h : hashes cs = 0) :
    hashes (List.replicate level '#' ++ cs) = level := by
  induction level with
  | zero => exact h
  | succ level ih => rw [List.replicate_succ, List.cons_append, hashes, ih]

theorem hashes_of_blank {c : Char} (h : isBlank c = true) (cs : List Char) :
    hashes (c :: cs) = 0 := by
  have hne : c ≠ '#' := by
    rintro rfl
    exact absurd h (by decide)
  unfold hashes
  split
  · rename_i heq
    exact absurd (List.cons.inj heq).1 hne
  · rfl

theorem afterBlanks?_eq_some_iff {cs rest : List Char} :
    afterBlanks? cs = some rest ↔ ∃ c gap, isBlank c = true ∧ (∀ b ∈ gap, isBlank b = true) ∧
      cs = c :: gap ++ rest ∧ trimStart rest = rest := by
  constructor
  · intro h
    cases cs with
    | nil => simp [afterBlanks?] at h
    | cons c cs =>
        simp only [afterBlanks?, Option.ite_none_right_eq_some, Option.some.injEq] at h
        obtain ⟨hc, rfl⟩ := h
        refine ⟨c, cs.takeWhile isBlank, hc, fun b hb => List.mem_takeWhile_imp hb, ?_, ?_⟩
        · rw [List.cons_append, trimStart, List.takeWhile_append_dropWhile]
        · exact trimStart_trimStart cs
  · rintro ⟨c, gap, hc, hgap, rfl, hrest⟩
    have hgap : trimStart gap = [] := trimStart_eq_nil_iff.mpr hgap
    rw [List.cons_append, afterBlanks?, if_pos hc, trimStart_append, if_pos hgap, hrest]

theorem hashes_append_of_blank {bs : List Char} (h : ∀ b ∈ bs, isBlank b = true)
    (cs : List Char) : hashes (cs ++ bs) = hashes cs := by
  induction cs with
  | nil =>
      cases bs with
      | nil => rfl
      | cons b bs => exact hashes_of_blank (h b (by simp)) bs
  | cons c cs ih =>
      by_cases hc : c = '#'
      · simp [hashes, hc, ih]
      · simp [hashes, hc]

theorem marked?_eq_some_iff {level : Nat} {mark : String} {cs rest : List Char} :
    marked? level mark cs = some rest ↔ ∃ c gap, isBlank c = true ∧
      (∀ b ∈ gap, isBlank b = true) ∧
      cs = List.replicate level '#' ++ (c :: gap ++ (mark.toList ++ rest)) ∧
      trimStart (mark.toList ++ rest) = mark.toList ++ rest := by
  simp only [marked?, Option.bind_eq_bind, Option.bind_eq_some_iff, after?_eq_some_iff,
    afterBlanks?_eq_some_iff]
  constructor
  · rintro ⟨_, rfl, _, ⟨c, gap, hc, hgap, rfl, hrest⟩, rfl⟩
    exact ⟨c, gap, hc, hgap, rfl, hrest⟩
  · rintro ⟨c, gap, hc, hgap, rfl, hrest⟩
    exact ⟨_, rfl, _, ⟨c, gap, hc, hgap, rfl, hrest⟩, rfl⟩

/-- A marked line starts with the hashes of its level and no more. -/
theorem hashes_of_marked? {level : Nat} {mark : String} {cs rest : List Char}
    (h : marked? level mark cs = some rest) : hashes cs = level := by
  obtain ⟨c, gap, hc, -, rfl, -⟩ := marked?_eq_some_iff.mp h
  exact hashes_replicate_append level (hashes_of_blank hc _)

theorem hashes_of_sectionName? {l : List Char} {name : String} (h : sectionName? l = some name) :
    hashes l = 2 := by
  obtain ⟨rest, hrest, -⟩ := Option.bind_eq_some_iff.mp h
  exact hashes_of_marked? hrest

theorem hashes_of_requirementName? {l : List Char} {name : String}
    (h : requirementName? l = some name) : hashes l = 3 := by
  obtain ⟨rest, hrest, -⟩ := Option.bind_eq_some_iff.mp h
  exact hashes_of_marked? hrest

theorem isScenario_iff {l : List Char} :
    isScenario l = true ↔ ∃ rest, rest ≠ [] ∧ marked? 4 "Scenario:" l = some rest := by
  unfold isScenario
  split
  · rename_i c cs heq
    simp [heq]
  · rename_i hne
    refine iff_of_false Bool.false_ne_true ?_
    rintro ⟨rest, hrest, heq⟩
    obtain ⟨c, cs, rfl⟩ := List.exists_cons_of_ne_nil hrest
    exact hne c cs heq

theorem hashes_of_isScenario {l : List Char} (h : isScenario l = true) : hashes l = 4 := by
  obtain ⟨rest, -, hrest⟩ := isScenario_iff.mp h
  exact hashes_of_marked? hrest

/-! ## Kinds -/

theorem kind_eq_sectionHead_iff {l : List Char} {name : String} :
    kind l = .sectionHead name ↔ sectionName? l = some name := by
  unfold kind
  cases hs : sectionName? l with
  | some other => simp
  | none =>
      refine iff_of_false ?_ (by simp)
      cases requirementName? l with
      | some other => simp
      | none =>
          simp only
          split
          · simp
          · split
            · simp
            · split <;> simp

theorem kind_eq_requirementHead_iff {l : List Char} {name : String} :
    kind l = .requirementHead name ↔ requirementName? l = some name := by
  unfold kind
  cases hs : sectionName? l with
  | some other =>
      have hne : requirementName? l ≠ some name := by
        intro hr
        have h2 := hashes_of_sectionName? hs
        have h3 := hashes_of_requirementName? hr
        omega
      exact iff_of_false (by simp) hne
  | none =>
      cases requirementName? l with
      | some other => simp
      | none =>
          refine iff_of_false ?_ (by simp)
          simp only
          split
          · simp
          · split
            · simp
            · split <;> simp

theorem kind_eq_scenarioHead_iff {l : List Char} :
    kind l = .scenarioHead ↔ isScenario l = true := by
  unfold kind
  cases hs : sectionName? l with
  | some other =>
      have hne : ¬ isScenario l = true := by
        intro h
        have h2 := hashes_of_sectionName? hs
        have h4 := hashes_of_isScenario h
        omega
      exact iff_of_false (by simp) hne
  | none =>
      cases hr : requirementName? l with
      | some other =>
          have hne : ¬ isScenario l = true := by
            intro h
            have h3 := hashes_of_requirementName? hr
            have h4 := hashes_of_isScenario h
            omega
          exact iff_of_false (by simp) hne
      | none =>
          simp only
          split
          · rename_i h
            exact iff_of_true rfl h
          · rename_i h
            refine iff_of_false ?_ h
            split
            · simp
            · split <;> simp

/-! ## Markers that do not count -/

/-- What a malformed scenario starts with after its indentation, up to the mark itself. -/
inductive MalformedOpening : List Char → Prop
  | heading {level : Nat} {c : Char} {gap : List Char} (hlevel : level ∈ [3, 5, 6])
      (hc : isBlank c = true) (hgap : ∀ b ∈ gap, isBlank b = true) :
      MalformedOpening (List.replicate level '#' ++ c :: gap)
  | bold : MalformedOpening ['*', '*']
  | bullet {mark c : Char} {gap : List Char} (hmark : mark = '-' ∨ mark = '*')
      (hc : isBlank c = true) (hgap : ∀ b ∈ gap, isBlank b = true) :
      MalformedOpening (mark :: c :: gap ++ ['*', '*'])

theorem isMalformedScenario_iff {l : List Char} :
    isMalformedScenario l = true ↔ ∃ start rest, MalformedOpening start ∧
      trimStart l = start ++ ("Scenario:".toList ++ rest) := by
  constructor
  · intro h
    simp only [isMalformedScenario, Bool.or_eq_true, List.any_eq_true] at h
    rcases h with (⟨level, hlevel, hmarked⟩ | hbold) | hbullet
    · obtain ⟨rest, hrest⟩ := Option.isSome_iff_exists.mp hmarked
      obtain ⟨c, gap, hc, hgap, hl, -⟩ := marked?_eq_some_iff.mp hrest
      exact ⟨_, rest, .heading hlevel hc hgap, by rw [hl, List.append_assoc]⟩
    · obtain ⟨rest, hrest⟩ := Option.isSome_iff_exists.mp hbold
      exact ⟨_, rest, .bold, by rw [after?_eq_some_iff.mp hrest]; rfl⟩
    · obtain ⟨rest, hrest⟩ := Option.isSome_iff_exists.mp hbullet
      obtain ⟨more, hmore, hafter⟩ := Option.bind_eq_some_iff.mp hrest
      split at hmore
      · rename_i mark tail htail
        rw [Option.ite_none_right_eq_some] at hmore
        obtain ⟨hmark, hblanks⟩ := hmore
        obtain ⟨c, gap, hc, hgap, rfl, -⟩ := afterBlanks?_eq_some_iff.mp hblanks
        obtain rfl := after?_eq_some_iff.mp hafter
        refine ⟨_, rest, .bullet (by simpa using hmark) hc hgap, ?_⟩
        rw [htail]
        simp
      · cases hmore
  · rintro ⟨start, rest, hstart, hl⟩
    simp only [isMalformedScenario, hl, Bool.or_eq_true, List.any_eq_true]
    cases hstart with
    | heading hlevel hc hgap =>
        refine Or.inl (Or.inl ⟨_, hlevel, Option.isSome_iff_exists.mpr ⟨rest, ?_⟩⟩)
        exact marked?_eq_some_iff.mpr
          ⟨_, _, hc, hgap, by rw [List.append_assoc], trimStart_cons_of_not_blank (by decide) _⟩
    | bold => exact Or.inl (Or.inr (Option.isSome_iff_exists.mpr ⟨rest, rfl⟩))
    | @bullet mark c gap hmark hc hgap =>
        refine Or.inr (Option.isSome_iff_exists.mpr ⟨rest, ?_⟩)
        have hblanks : afterBlanks? (c :: gap ++ ("**Scenario:".toList ++ rest)) =
            some ("**Scenario:".toList ++ rest) :=
          afterBlanks?_eq_some_iff.mpr
            ⟨c, gap, hc, hgap, rfl, trimStart_cons_of_not_blank (by decide) _⟩
        have htail : mark :: c :: gap ++ ['*', '*'] ++ ("Scenario:".toList ++ rest) =
            mark :: (c :: gap ++ ("**Scenario:".toList ++ rest)) := by simp
        simp only [htail]
        rw [if_pos (by simpa using hmark), hblanks, Option.bind_some]
        exact after?_eq_some_iff.mpr rfl

/-- Indentation does not matter to a malformed scenario. -/
theorem isMalformedScenario_trimStart (l : List Char) :
    isMalformedScenario (trimStart l) = isMalformedScenario l := by
  rw [Bool.eq_iff_iff, isMalformedScenario_iff, isMalformedScenario_iff, trimStart_trimStart]

/-- Nor do blanks at the end. -/
theorem isMalformedScenario_append_of_blank {bs : List Char} (h : ∀ b ∈ bs, isBlank b = true)
    (l : List Char) : isMalformedScenario (l ++ bs) = isMalformedScenario l := by
  rw [Bool.eq_iff_iff, isMalformedScenario_iff, isMalformedScenario_iff, trimStart_append]
  have hmark : "Scenario:".toList = "Scenario".toList ++ [':'] := by decide
  constructor
  · rintro ⟨start, rest, hstart, hl⟩
    by_cases hnil : trimStart l = []
    · rw [if_pos hnil, trimStart_eq_nil_iff.mpr h] at hl
      simp at hl
    · rw [if_neg hnil, hmark, ← List.append_assoc, ← List.append_assoc] at hl
      obtain ⟨more, hmore, -⟩ := exists_append_of_append_blank h (by decide) hl
      exact ⟨start, more, hstart, by rw [hmore, hmark]; simp⟩
  · rintro ⟨start, rest, hstart, hl⟩
    have hne : trimStart l ≠ [] := by simp [hl]
    exact ⟨start, rest ++ bs, hstart, by rw [if_neg hne, hl]; simp⟩

/-- A malformed scenario that starts with a hash is a heading of its own level. -/
theorem marked?_of_isMalformedScenario {l : List Char} (h : isMalformedScenario l = true)
    (hhashes : hashes l ≠ 0) :
    ∃ level rest, level ∈ [3, 5, 6] ∧ marked? level "Scenario:" l = some rest := by
  obtain ⟨start, rest, hstart, hl⟩ := isMalformedScenario_iff.mp h
  have htrim : trimStart l = l := by
    cases l with
    | nil => rfl
    | cons c l =>
        cases hc : isBlank c with
        | true => exact absurd (hashes_of_blank hc l) hhashes
        | false => exact trimStart_cons_of_not_blank hc l
  rw [htrim] at hl
  cases hstart with
  | @heading level c gap hlevel hc hgap =>
      refine ⟨level, rest, hlevel, marked?_eq_some_iff.mpr ⟨c, gap, hc, hgap, ?_, ?_⟩⟩
      · rw [hl, List.append_assoc]
      · exact trimStart_cons_of_not_blank (by decide) _
  | bold =>
      rw [hl] at hhashes
      exact absurd rfl hhashes
  | bullet hmark hc hgap =>
      rw [hl] at hhashes
      rcases hmark with rfl | rfl <;> exact absurd rfl hhashes

theorem hashes_of_isMalformedScenario {l : List Char} (h : isMalformedScenario l = true) :
    hashes l ∈ [0, 3, 5, 6] := by
  by_cases hzero : hashes l = 0
  · simp [hzero]
  · obtain ⟨level, rest, hlevel, hmarked⟩ := marked?_of_isMalformedScenario h hzero
    rw [hashes_of_marked? hmarked]
    exact List.mem_cons_of_mem 0 hlevel

theorem requirementName?_of_isMalformedScenario {l : List Char}
    (h : isMalformedScenario l = true) : requirementName? l = none := by
  rw [Option.eq_none_iff_forall_ne_some]
  intro name hname
  have hthree := hashes_of_requirementName? hname
  obtain ⟨level, rest, -, hscenario⟩ := marked?_of_isMalformedScenario h (by omega)
  obtain rfl : level = 3 := by rw [← hashes_of_marked? hscenario, hthree]
  obtain ⟨other, hother, -⟩ := Option.bind_eq_some_iff.mp hname
  -- Both marks would have to follow the same blanks.
  simp only [marked?, Option.bind_eq_bind, Option.bind_eq_some_iff, after?_eq_some_iff]
    at hscenario hother
  obtain ⟨_, rfl, _, hblanks, rfl⟩ := hscenario
  obtain ⟨_, hl, _, hblanks', rfl⟩ := hother
  rw [← List.append_cancel_left hl, hblanks] at hblanks'
  simp at hblanks'

theorem kind_eq_malformedScenario_iff {l : List Char} :
    kind l = .malformedScenario ↔ isMalformedScenario l = true := by
  constructor
  · intro h
    unfold kind at h
    split at h
    · cases h
    · split at h
      · cases h
      · split at h
        · cases h
        · split at h
          · assumption
          · split at h <;> cases h
  · intro h
    have hhashes := hashes_of_isMalformedScenario h
    have hsection : sectionName? l = none := by
      rw [Option.eq_none_iff_forall_ne_some]
      intro name hname
      simp [hashes_of_sectionName? hname] at hhashes
    have hscenario : ¬ isScenario l = true := by
      intro hs
      simp [hashes_of_isScenario hs] at hhashes
    rw [kind, hsection, requirementName?_of_isMalformedScenario h]
    simp [hscenario, h]

/-! ## Levels -/

theorem hashes_of_unmarked (l : List Char) :
    (∀ n, kind l = .heading n → hashes l = n) ∧ (kind l = .text → hashes l = 0) := by
  unfold kind
  split
  · simp
  · split
    · simp
    · split
      · simp
      · split
        · simp
        · split
          · simpa
          · simp [*]

/-- Whatever its kind, the level of a line is the number of hashes that it starts with. -/
theorem level_eq_hashes (l : List Char) : level l = hashes l := by
  unfold level
  cases h : kind l with
  | sectionHead name => exact (hashes_of_sectionName? (kind_eq_sectionHead_iff.mp h)).symm
  | requirementHead name =>
      exact (hashes_of_requirementName? (kind_eq_requirementHead_iff.mp h)).symm
  | scenarioHead => exact (hashes_of_isScenario (kind_eq_scenarioHead_iff.mp h)).symm
  | malformedScenario => rfl
  | heading n => exact ((hashes_of_unmarked l).1 n h).symm
  | text => exact ((hashes_of_unmarked l).2 h).symm

theorem le_hashes_iff {n : Nat} {l : List Char} :
    n ≤ hashes l ↔ List.replicate n '#' <+: l := by
  induction n generalizing l with
  | zero => simp
  | succ n ih =>
      cases l with
      | nil => simp [hashes, List.replicate_succ]
      | cons c l =>
          rw [List.replicate_succ, List.cons_prefix_cons, ← ih]
          by_cases hc : c = '#'
          · simp [hashes, hc]
          · have hzero : hashes (c :: l) = 0 := by
              rw [hashes]
              rintro cs ⟨⟩
              exact hc rfl
            simp [hzero, Ne.symm hc]

end Line

/-! ## Lines that open a block -/

theorem Section.opening?_eq (l : List Char) : Section.opening? l = Line.sectionName? l := by
  unfold Section.opening?
  split
  · rename_i name h
    exact (Line.kind_eq_sectionHead_iff.mp h).symm
  · rename_i hne
    cases hs : Line.sectionName? l with
    | none => rfl
    | some name => exact absurd (Line.kind_eq_sectionHead_iff.mpr hs) (hne name)

theorem Requirement.opening?_eq (l : List Char) :
    Requirement.opening? l = Line.requirementName? l := by
  unfold Requirement.opening?
  split
  · rename_i name h
    exact (Line.kind_eq_requirementHead_iff.mp h).symm
  · rename_i hne
    cases hr : Line.requirementName? l with
    | none => rfl
    | some name => exact absurd (Line.kind_eq_requirementHead_iff.mpr hr) (hne name)

/-- A section heading closes a requirement. -/
theorem Section.opening?_of_closes {l : List Char} (h : Requirement.closes l = false) :
    Section.opening? l = none := by
  unfold Requirement.closes at h
  unfold Section.opening?
  split
  · rename_i name heq
    simp [heq] at h
  · rfl

end SpecReview
