import SpecReview.Name

/-! # Canonical names

A word in lower case is a word in lower case again, and words read back from the text in which
they are joined. So a canonical name is its own canonical form, and only a blank name has an empty
one. -/

namespace SpecReview

namespace Text

theorem words_eq_nil_iff {cs : List Char} : words cs = [] ↔ ∀ c ∈ cs, isBlank c = true := by
  fun_induction words cs with
  | case1 => simp
  | case2 c hc => simp [hc]
  | case3 c hc => simp [hc]
  | case4 c d cs hc ih => simp [ih, hc]
  | case5 c d cs hc hd ih => simp [hc]
  | case6 c d cs hc hd hnil ih => simp [hc]
  | case7 c d cs hc hd w ws hcons ih => simp [hc]

theorem ne_nil_of_mem_words {cs w : List Char} (h : w ∈ words cs) : w ≠ [] := by
  fun_induction words cs with
  | case1 => simp at h
  | case2 c hc => simp at h
  | case3 c hc => simp [List.mem_singleton.mp h]
  | case4 c d cs hc ih => exact ih h
  | case5 c d cs hc hd ih =>
      rcases List.mem_cons.mp h with rfl | h
      · simp
      · exact ih h
  | case6 c d cs hc hd hnil ih => simp [List.mem_singleton.mp h]
  | case7 c d cs hc hd v vs hcons ih =>
      rcases List.mem_cons.mp h with rfl | h
      · simp
      · exact ih (by simp [hcons, h])

theorem isBlank_of_mem_words {cs w : List Char} (h : w ∈ words cs) : ∀ c ∈ w, isBlank c = false := by
  fun_induction words cs generalizing w with
  | case1 => simp at h
  | case2 c hc => simp at h
  | case3 c hc => simpa [List.mem_singleton.mp h] using hc
  | case4 c d cs hc ih => exact ih h
  | case5 c d cs hc hd ih =>
      rcases List.mem_cons.mp h with rfl | h
      · simpa using hc
      · exact ih h
  | case6 c d cs hc hd hnil ih => simpa [List.mem_singleton.mp h] using hc
  | case7 c d cs hc hd v vs hcons ih =>
      rcases List.mem_cons.mp h with rfl | h
      · exact List.forall_mem_cons.mpr ⟨by simpa using hc, ih (by simp [hcons])⟩
      · exact ih (by simp [hcons, h])

/-- A word ends where a blank follows. -/
theorem words_append_blank {w : List Char} (hne : w ≠ []) (hw : ∀ c ∈ w, isBlank c = false)
    {b : Char} (hb : isBlank b = true) (cs : List Char) : words (w ++ b :: cs) = w :: words cs := by
  have hblank : words (b :: cs) = words cs := by cases cs <;> simp [words, hb]
  induction w with
  | nil => exact absurd rfl hne
  | cons c w ih =>
      have hc : isBlank c = false := hw c (by simp)
      cases w with
      | nil => simp [words, hc, hb, hblank]
      | cons d w =>
          have hd : isBlank d = false := hw d (by simp)
          have ih := ih (by simp) fun e he => hw e (List.mem_cons_of_mem c he)
          rw [List.cons_append] at ih
          simp [words, hc, hd, ih]

theorem words_of_not_blank {w : List Char} (hne : w ≠ []) (hw : ∀ c ∈ w, isBlank c = false) :
    words w = [w] := by
  induction w with
  | nil => exact absurd rfl hne
  | cons c w ih =>
      have hc : isBlank c = false := hw c (by simp)
      cases w with
      | nil => simp [words, hc]
      | cons d w =>
          have hd : isBlank d = false := hw d (by simp)
          have ih := ih (by simp) fun e he => hw e (List.mem_cons_of_mem c he)
          simp [words, hc, hd, ih]

/-! ## Lower case -/

/-- Whether a run leaves alone what another one maps to: it ends before that or starts after it, or
both go by steps of two, out of step with each other. -/
def CaseRun.spares (s r : CaseRun) : Bool :=
  Nat.blt (r.image + (r.last - r.first)) s.first || Nat.blt s.last r.image
    || ((Nat.beq r.step 2 || Nat.beq r.first r.last) && Nat.beq s.step 2
      && Nat.beq ((r.image + s.first) % 2) 1)

theorem caseRuns_spare : (caseRuns.all fun r => caseRuns.all (·.spares r)) = true := by
  decide +kernel

/-- The images of a run are characters, and neither the dotted capital I nor blanks. -/
theorem caseRuns_images : ∀ r ∈ caseRuns,
    (r.image + (r.last - r.first) < 'İ'.toNat ∨ 'İ'.toNat < r.image) ∧
      (r.image + (r.last - r.first) < 0xD800 ∨
        0xDFFF < r.image ∧ r.image + (r.last - r.first) < 0x110000) ∧
      ∀ b ∈ blankRanges, r.image + (r.last - r.first) < b.first ∨ b.last < r.image := by
  decide +kernel

/-- A code point is mapped by a run or stays. -/
theorem lowerCode_eq (n : Nat) (rs : List CaseRun) :
    lowerCode n rs = n ∨ ∃ r ∈ rs, ∃ k, k ≤ r.last - r.first ∧ k % r.step = 0 ∧
      lowerCode n rs = r.image + k := by
  induction rs with
  | nil => exact Or.inl rfl
  | cons r rs ih =>
      rw [lowerCode]
      split
      · exact Or.inl rfl
      · split
        · split
          · exact Or.inr ⟨r, by simp, n - r.first, by omega, ‹_›, rfl⟩
          · exact Or.inl rfl
        · rcases ih with h | ⟨s, hs, k, hk, hstep, h⟩
          · exact Or.inl h
          · exact Or.inr ⟨s, List.mem_cons_of_mem r hs, k, hk, hstep, h⟩

theorem lowerCode_of_spared {n : Nat} {rs : List CaseRun}
    (h : ∀ s ∈ rs, n < s.first ∨ s.last < n ∨ (n - s.first) % s.step ≠ 0) :
    lowerCode n rs = n := by
  induction rs with
  | nil => rfl
  | cons s rs ih =>
      have ih := ih fun t ht => h t (List.mem_cons_of_mem s ht)
      have hs := h s (by simp)
      rw [lowerCode, ih]
      split
      · rfl
      · split
        · rw [if_neg (by omega)]
        · rfl

theorem lowerCode_image {r : CaseRun} (hr : r ∈ caseRuns) {k : Nat} (hk : k ≤ r.last - r.first)
    (hstep : k % r.step = 0) : lowerCode (r.image + k) caseRuns = r.image + k := by
  refine lowerCode_of_spared fun s hs => ?_
  have hspare := List.all_eq_true.mp (List.all_eq_true.mp caseRuns_spare r hr) s hs
  simp only [CaseRun.spares, Bool.or_eq_true, Bool.and_eq_true, Nat.blt_eq, Nat.beq_eq] at hspare
  rcases hspare with (h | h) | ⟨⟨h, hs2⟩, hodd⟩
  · omega
  · omega
  · rw [hs2]
    rcases h with h | h
    · rw [h] at hstep
      omega
    · omega

/-- A character that lower-casing leaves alone wherever it stands. -/
def IsLower (c : Char) : Prop :=
  lowerChar c = [c] ∧ c ≠ 'Σ'

instance : DecidablePred IsLower :=
  fun _ => inferInstanceAs (Decidable (_ ∧ _))

theorem lowerChar_eq (c : Char) :
    lowerChar c = [c] ∨ lowerChar c = ['i', '\u0307'] ∨
      ∃ r ∈ caseRuns, ∃ d, lowerChar c = [d] ∧ r.image ≤ d.toNat ∧
        d.toNat ≤ r.image + (r.last - r.first) ∧ lowerCode d.toNat caseRuns = d.toNat := by
  by_cases hc : c = 'İ'
  · exact Or.inr (Or.inl (if_pos hc))
  · have hchar : lowerChar c = [Char.ofNat (lowerCode c.toNat caseRuns)] := if_neg hc
    rcases lowerCode_eq c.toNat caseRuns with h | ⟨r, hr, k, hk, hstep, h⟩
    · rw [h, Char.ofNat_toNat] at hchar
      exact Or.inl hchar
    · have hvalid : (r.image + k).isValidChar := by
        have hchars := (caseRuns_images r hr).2.1
        rw [Nat.isValidChar]
        omega
      have hd : (Char.ofNat (r.image + k)).toNat = r.image + k := by
        rw [Char.ofNat, dif_pos hvalid]
        rfl
      rw [h] at hchar
      refine Or.inr (Or.inr ⟨r, hr, _, hchar, ?_, ?_, ?_⟩)
      · omega
      · omega
      · rw [hd, lowerCode_image hr hk hstep]

theorem isLower_of_mem_lowerChar {c d : Char} (h : d ∈ lowerChar c) : IsLower d := by
  have hsigma : lowerCode 'Σ'.toNat caseRuns ≠ 'Σ'.toNat := by decide +kernel
  rcases lowerChar_eq c with hc | hc | ⟨r, hr, e, hc, hfirst, hlast, hcode⟩
  · rw [hc, List.mem_singleton] at h
    subst h
    refine ⟨hc, ?_⟩
    rintro rfl
    exact absurd hc (by decide +kernel)
  · rw [hc] at h
    rcases List.mem_cons.mp h with rfl | h
    · decide +kernel
    · rw [List.mem_singleton.mp h]
      decide +kernel
  · rw [hc, List.mem_singleton] at h
    subst h
    have hdotted : d ≠ 'İ' := by
      rintro rfl
      have himages := (caseRuns_images r hr).1
      omega
    refine ⟨?_, ?_⟩
    · rw [lowerChar, if_neg hdotted, hcode, Char.ofNat_toNat]
    · rintro rfl
      exact hsigma hcode

theorem isBlank_of_mem_lowerChar {c d : Char} (hc : isBlank c = false) (h : d ∈ lowerChar c) :
    isBlank d = false := by
  rcases lowerChar_eq c with he | he | ⟨r, hr, e, he, hfirst, hlast, -⟩
  · rw [he, List.mem_singleton] at h
    rwa [h]
  · rw [he] at h
    rcases List.mem_cons.mp h with rfl | h
    · decide
    · rw [List.mem_singleton.mp h]
      decide
  · rw [he, List.mem_singleton] at h
    subst h
    rw [isBlank, Bool.eq_false_iff, ne_eq, inRanges_iff blankRanges_ascending]
    rintro ⟨b, hb, hle⟩
    have hgap := (caseRuns_images r hr).2.2 b hb
    omega

/-- In lower case there are the lower-case forms of characters by themselves, and small sigmas. -/
theorem of_mem_lowercaseFrom {before cs : List Char} {d : Char} (h : d ∈ lowercaseFrom before cs) :
    (d = 'ς' ∨ d = 'σ') ∨ ∃ c ∈ cs, d ∈ lowerChar c := by
  induction cs generalizing before with
  | nil => simp [lowercaseFrom] at h
  | cons c cs ih =>
      rw [lowercaseFrom, List.mem_append] at h
      rcases h with h | h
      · split at h
        · rw [List.mem_singleton] at h
          split at h
          · exact Or.inl (Or.inl h)
          · exact Or.inl (Or.inr h)
        · exact Or.inr ⟨c, by simp, h⟩
      · rcases ih h with hd | ⟨e, he, hd⟩
        · exact Or.inl hd
        · exact Or.inr ⟨e, List.mem_cons_of_mem c he, hd⟩

theorem isLower_of_mem_lowercase {cs : List Char} {d : Char} (h : d ∈ lowercase cs) :
    IsLower d := by
  rcases of_mem_lowercaseFrom h with (rfl | rfl) | ⟨c, -, hd⟩
  · decide +kernel
  · decide +kernel
  · exact isLower_of_mem_lowerChar hd

theorem isBlank_of_mem_lowercase {cs : List Char} (hcs : ∀ c ∈ cs, isBlank c = false) {d : Char}
    (h : d ∈ lowercase cs) : isBlank d = false := by
  rcases of_mem_lowercaseFrom h with (rfl | rfl) | ⟨c, hc, hd⟩
  · decide
  · decide
  · exact isBlank_of_mem_lowerChar (hcs c hc) hd

theorem lowercaseFrom_eq_self {before cs : List Char} (h : ∀ c ∈ cs, IsLower c) :
    lowercaseFrom before cs = cs := by
  induction cs generalizing before with
  | nil => rfl
  | cons c cs ih =>
      obtain ⟨hc, hsigma⟩ := h c (by simp)
      rw [lowercaseFrom, if_neg hsigma, hc, ih fun d hd => h d (List.mem_cons_of_mem c hd)]
      rfl

theorem lowercase_lowercase (cs : List Char) : lowercase (lowercase cs) = lowercase cs :=
  lowercaseFrom_eq_self fun _ => isLower_of_mem_lowercase

theorem lowercase_eq_nil_iff {cs : List Char} : lowercase cs = [] ↔ cs = [] := by
  cases cs with
  | nil => simp [lowercase, lowercaseFrom]
  | cons c cs =>
      have hchar : lowerChar c ≠ [] := by
        unfold lowerChar
        split <;> simp
      by_cases h : c = 'Σ' <;> simp [lowercase, lowercaseFrom, h, hchar]

end Text

namespace Name

open Text

/-- A word, which is what a text consists of between its blanks. -/
def IsWord (w : List Char) : Prop :=
  w ≠ [] ∧ ∀ c ∈ w, isBlank c = false

theorem isWord_of_mem_map_lowercase {name : String} {w : List Char}
    (h : w ∈ (words name.toList).map lowercase) : IsWord w := by
  obtain ⟨v, hv, rfl⟩ := List.mem_map.mp h
  exact ⟨mt lowercase_eq_nil_iff.mp (ne_nil_of_mem_words hv),
    fun _ => isBlank_of_mem_lowercase (isBlank_of_mem_words hv)⟩

/-- Words read back from the text in which they are joined. -/
theorem words_joinWords {ws : List (List Char)} (h : ∀ w ∈ ws, IsWord w) :
    words (joinWords ws) = ws := by
  induction ws with
  | nil => rfl
  | cons w ws ih =>
      obtain ⟨hne, hw⟩ := h w (by simp)
      have ih := ih fun v hv => h v (List.mem_cons_of_mem w hv)
      cases ws with
      | nil => exact words_of_not_blank hne hw
      | cons v ws => rw [joinWords, words_append_blank hne hw (by decide), ih]

theorem words_canonical (name : String) :
    words (canonical name).toList = (words name.toList).map lowercase := by
  rw [canonical, String.toList_ofList]
  exact words_joinWords fun _ => isWord_of_mem_map_lowercase

/-- A canonical name is its own canonical form. -/
theorem canonical_canonical (name : String) : canonical (canonical name) = canonical name := by
  have hlower : ((words name.toList).map lowercase).map lowercase =
      (words name.toList).map lowercase := by
    rw [List.map_map]
    exact List.map_congr_left fun w _ => lowercase_lowercase w
  rw [canonical, words_canonical, hlower, canonical]

theorem canonical_eq_empty_iff {name : String} :
    canonical name = "" ↔ ∀ c ∈ name.toList, isBlank c = true := by
  rw [← words_eq_nil_iff]
  constructor
  · intro h
    have hwords := words_canonical name
    rw [h, eq_comm] at hwords
    exact List.map_eq_nil_iff.mp hwords
  · intro h
    rw [canonical, h]
    rfl

end Name

end SpecReview
