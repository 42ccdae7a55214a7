import Mathlib.Data.List.Forall2
import SpecReview.Proofs.Name.Canonical

/-! # The words of names

How a text is written in words settles the words, so that a name can be taken for the list of its
words. Two names are the same if their words are the same in lower case, one by one. -/

namespace SpecReview.Name

open Text

/-- How words are written: blanks before the first, between each two and after the last. -/
inductive WrittenIn : List (List Char) → List Char → Prop where
  | nil : WrittenIn [] []
  | blank {b : Char} {ws : List (List Char)} {cs : List Char} (hb : isBlank b = true)
      (h : WrittenIn ws cs) : WrittenIn ws (b :: cs)
  | last {w : List Char} (hw : IsWord w) : WrittenIn [w] w
  | word {w : List Char} {b : Char} {ws : List (List Char)} {cs : List Char} (hw : IsWord w)
      (hb : isBlank b = true) (h : WrittenIn ws (b :: cs)) : WrittenIn (w :: ws) (w ++ b :: cs)

variable {ws : List (List Char)} {cs : List Char}

theorem words_cons_of_blank {b : Char} (hb : isBlank b = true) (cs : List Char) :
    words (b :: cs) = words cs := by
  cases cs <;> simp [words, hb]

theorem WrittenIn.words_eq (h : WrittenIn ws cs) : words cs = ws := by
  induction h with
  | nil => rfl
  | blank hb _ ih => rw [words_cons_of_blank hb, ih]
  | last hw => exact words_of_not_blank hw.1 hw.2
  | word hw hb _ ih =>
      rw [words_cons_of_blank hb] at ih
      rw [words_append_blank hw.1 hw.2 hb, ih]

theorem WrittenIn.cons_letter {c : Char} {w : List Char} (hc : isBlank c = false)
    (h : WrittenIn (w :: ws) cs) (hcs : ∀ d ∈ cs.head?, isBlank d = false) :
    WrittenIn ((c :: w) :: ws) (c :: cs) := by
  have hword (hw : IsWord w) : IsWord (c :: w) :=
    ⟨List.cons_ne_nil c w, List.forall_mem_cons.mpr ⟨hc, hw.2⟩⟩
  cases h with
  | blank hb _ => simp [hb] at hcs
  | last hw => exact .last (hword hw)
  | word hw hb h => exact .word (hword hw) hb h

theorem writtenIn_words (cs : List Char) : WrittenIn (words cs) cs := by
  fun_induction words cs with
  | case1 => exact .nil
  | case2 c hc => exact .blank hc .nil
  | case3 c hc => exact .last ⟨by simp, by simpa using hc⟩
  | case4 c d cs hc ih => exact .blank hc ih
  | case5 c d cs hc hd ih =>
      have hword : IsWord [c] := ⟨by simp, by simpa using hc⟩
      exact .word hword hd ih
  | case6 c d cs hc hd hnil ih => exact absurd (words_eq_nil_iff.mp hnil d (by simp)) hd
  | case7 c d cs hc hd w ws hcons ih =>
      rw [hcons] at ih
      exact ih.cons_letter (by simpa using hc) (by simpa using hd)

/-- A text is written in its words and in no others. -/
theorem writtenIn_iff : WrittenIn ws cs ↔ words cs = ws :=
  ⟨WrittenIn.words_eq, fun h => h ▸ writtenIn_words cs⟩

/-! ## The same name -/

theorem canonical_eq_iff {x y : String} :
    canonical x = canonical y ↔
      List.Forall₂ (fun v w => lowercase v = lowercase w) (words x.toList) (words y.toList) := by
  rw [← List.forall₂_map_right_iff (f := lowercase), ← List.forall₂_map_left_iff (f := lowercase),
    List.forall₂_eq_eq_eq]
  constructor
  · intro h
    rw [← words_canonical, ← words_canonical, h]
  · intro h
    rw [canonical, canonical, h]

/-- Two names are the same if they are written in equally many words and these are the same in
lower case, one by one. A canonical name stays as it is. -/
theorem canonical_by_words (x y : String) :
    (canonical x = canonical y ↔ ∃ vs ws, WrittenIn vs x.toList ∧ WrittenIn ws y.toList ∧
      vs.length = ws.length ∧ List.Forall₂ (fun v w => lowercase v = lowercase w) vs ws) ∧
    canonical (canonical x) = canonical x := by
  refine ⟨?_, canonical_canonical x⟩
  rw [canonical_eq_iff]
  constructor
  · intro h
    exact ⟨_, _, writtenIn_iff.mpr rfl, writtenIn_iff.mpr rfl, h.length_eq, h⟩
  · rintro ⟨vs, ws, hvs, hws, -, h⟩
    rwa [writtenIn_iff.mp hvs, writtenIn_iff.mp hws]

/-- The final sigma, and a capital that comes to two characters in lower case. -/
example : canonical " ΤΟ\tΤΕΛΟΣ\nİ " = "το τελος i\u0307" := by decide +kernel

end SpecReview.Name
