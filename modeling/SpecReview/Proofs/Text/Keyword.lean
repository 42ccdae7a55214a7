import Mathlib.Data.List.Forall2
import SpecReview.Review.Fault

/-! # Keywords and the words of a text

The words of a text are its maximal runs of word characters. The search for keywords does not form
them. It tries every position, and counts a keyword with which no word goes on before or behind it.
As a keyword consists of word characters itself, what is found are the words that are keywords. -/

namespace SpecReview

namespace Text

/-! ## Letters -/

/-- The characters that simple case folding takes to a small letter of ASCII. -/
inductive Folds : Char → Char → Prop where
  | small (c : Char) (h : c.isLower = true) : Folds c c
  | capital (c : Char) (h : c.isUpper = true) : Folds c c.toLower
  | longS : Folds '\u017F' 's'
  | kelvin : Folds '\u212A' 'k'

theorem toLower_of_isUpper_eq_false {c : Char} (h : c.isUpper = false) : c.toLower = c :=
  dif_neg (of_decide_eq_false h)

theorem isUpper_eq_false_of_isLower {c : Char} (h : c.isLower = true) : c.isUpper = false := by
  refine decide_eq_false fun hupper => ?_
  have hlower : c.val ≥ 'a'.val := of_decide_eq_true (Bool.and_eq_true_iff.mp h).1
  exact absurd (UInt32.le_trans hlower hupper.2) (by decide)

theorem foldsTo_iff {letter c : Char} (h : letter.isLower = true) :
    foldsTo letter c = true ↔ Folds c letter := by
  simp only [foldsTo, Bool.or_eq_true, Bool.and_eq_true, decide_eq_true_eq]
  constructor
  · rintro ((rfl | ⟨rfl, rfl⟩) | ⟨rfl, rfl⟩)
    · cases hc : c.isUpper with
      | true => exact .capital c hc
      | false =>
          rw [toLower_of_isUpper_eq_false hc] at h ⊢
          exact .small c h
    · exact .longS
    · exact .kelvin
  · intro hfolds
    cases hfolds with
    | small c h =>
        exact Or.inl (Or.inl (toLower_of_isUpper_eq_false (isUpper_eq_false_of_isLower h)))
    | capital c h => exact Or.inl (Or.inl rfl)
    | longS => exact Or.inl (Or.inr ⟨rfl, rfl⟩)
    | kelvin => exact Or.inr ⟨rfl, rfl⟩

theorem isWordChar_of_folds {letter c : Char} (h : Folds c letter) : isWordChar c = true := by
  have halphanum (h : c.isUpper = true ∨ c.isLower = true) : c.isAlphanum = true :=
    Bool.or_eq_true_iff.mpr (Or.inl (Bool.or_eq_true_iff.mpr h))
  cases h with
  | small c h => exact isWordChar_of_isAlphanum (halphanum (Or.inr h))
  | capital c h => exact isWordChar_of_isAlphanum (halphanum (Or.inl h))
  | longS => decide +kernel
  | kelvin => decide +kernel

/-! ## The search at one position -/

variable {keyword cs rest : List Char} {keywords : List (List Char)}

/-- Whether a text is a keyword letter by letter, up to simple case folding. -/
def Spells (run keyword : List Char) : Prop :=
  List.Forall₂ Folds run keyword

theorem Spells.isWordChar {run : List Char} (h : Spells run keyword) :
    ∀ c ∈ run, isWordChar c = true := by
  induction h with
  | nil => simp
  | cons hfolds _ ih => exact List.forall_mem_cons.mpr ⟨isWordChar_of_folds hfolds, ih⟩

theorem afterKeyword?_eq_some_iff (hletters : ∀ k ∈ keyword, k.isLower = true) :
    afterKeyword? keyword cs = some rest ↔ ∃ run, cs = run ++ rest ∧ Spells run keyword := by
  induction keyword generalizing cs with
  | nil => simp [afterKeyword?, Spells]
  | cons k ks ih =>
      obtain ⟨hk, hks⟩ := List.forall_mem_cons.mp hletters
      cases cs with
      | nil => simp [afterKeyword?, Spells]
      | cons c cs =>
          rw [afterKeyword?]
          constructor
          · intro h
            split at h
            · rename_i hfolds
              obtain ⟨run, rfl, hrun⟩ := (ih hks).mp h
              exact ⟨c :: run, rfl, .cons ((foldsTo_iff hk).mp hfolds) hrun⟩
            · cases h
          · rintro ⟨run, hcs, hrun⟩
            cases hrun with
            | cons hfolds hrun =>
                obtain ⟨rfl, rfl⟩ := List.cons.inj hcs
                rw [if_pos ((foldsTo_iff hk).mpr hfolds)]
                exact (ih hks).mpr ⟨_, rfl, hrun⟩

theorem startsInWord_eq_false_iff :
    startsInWord cs = false ↔ ∀ c ∈ cs.head?, isWordChar c = false := by
  cases cs <;> simp [startsInWord]

theorem startsWithKeyword_iff (hletters : ∀ k ∈ keyword, k.isLower = true) :
    startsWithKeyword keyword cs = true ↔ ∃ run rest, cs = run ++ rest ∧ Spells run keyword ∧
      ∀ c ∈ rest.head?, isWordChar c = false := by
  have hsearch : startsWithKeyword keyword cs = true ↔
      ∃ rest, afterKeyword? keyword cs = some rest ∧ startsInWord rest = false := by
    rw [startsWithKeyword]
    cases afterKeyword? keyword cs <;> simp
  simp only [hsearch, afterKeyword?_eq_some_iff hletters, startsInWord_eq_false_iff]
  constructor
  · rintro ⟨rest, ⟨run, hcs, hrun⟩, hrest⟩
    exact ⟨run, rest, hcs, hrun, hrest⟩
  · rintro ⟨run, rest, hcs, hrun, hrest⟩
    exact ⟨rest, ⟨run, hcs, hrun⟩, hrest⟩

/-! ## The search through a text -/

/-- Whether a word goes on behind a text, of which it is given whether one goes on before it. -/
def endsInWord (inWord : Bool) (before : List Char) : Bool :=
  (before.getLast?.map isWordChar).getD inWord

theorem endsInWord_cons (inWord : Bool) (c : Char) (before : List Char) :
    endsInWord inWord (c :: before) = endsInWord (isWordChar c) before := by
  rw [endsInWord, endsInWord, List.getLast?_cons]
  cases before.getLast? <;> rfl

theorem endsInWord_false_eq_false_iff {before : List Char} :
    endsInWord false before = false ↔ ∀ c ∈ before.getLast?, isWordChar c = false := by
  rw [endsInWord]
  cases before.getLast? <;> simp

/-- The search comes by every position at which a text may start with a keyword. -/
theorem keywordFrom_iff {inWord : Bool} :
    keywordFrom keywords inWord cs = true ↔ ∃ before after, cs = before ++ after ∧ after ≠ [] ∧
      endsInWord inWord before = false ∧
        ∃ keyword ∈ keywords, startsWithKeyword keyword after = true := by
  induction cs generalizing inWord with
  | nil => simp [keywordFrom]
  | cons c cs ih =>
      rw [keywordFrom, Bool.or_eq_true, Bool.and_eq_true, Bool.not_eq_true', List.any_eq_true, ih]
      constructor
      · rintro (⟨hstart, hkeyword⟩ | ⟨before, after, rfl, hne, hend, hkeyword⟩)
        · exact ⟨[], c :: cs, rfl, by simp, hstart, hkeyword⟩
        · exact ⟨c :: before, after, rfl, hne, by rwa [endsInWord_cons], hkeyword⟩
      · rintro ⟨before, after, hcs, hne, hend, hkeyword⟩
        cases before with
        | nil =>
            rw [List.nil_append] at hcs
            subst hcs
            exact Or.inl ⟨hend, hkeyword⟩
        | cons d before =>
            obtain ⟨rfl, rfl⟩ := List.cons.inj hcs
            exact Or.inr ⟨before, after, rfl, hne, by rwa [endsInWord_cons] at hend, hkeyword⟩

/-! ## Words -/

/-- A maximal run of word characters: there is none right before it and none right behind it. -/
def IsRun (cs run : List Char) : Prop :=
  ∃ before after, cs = before ++ run ++ after ∧ run ≠ [] ∧ (∀ c ∈ run, isWordChar c = true) ∧
    (∀ c ∈ before.getLast?, isWordChar c = false) ∧ ∀ c ∈ after.head?, isWordChar c = false

/-- The search finds the words that are keywords. -/
theorem containsKeyword_iff (hne : [] ∉ keywords)
    (hletters : ∀ keyword ∈ keywords, ∀ k ∈ keyword, k.isLower = true) :
    containsKeyword keywords cs = true ↔
      ∃ run, IsRun cs run ∧ ∃ keyword ∈ keywords, Spells run keyword := by
  rw [containsKeyword, keywordFrom_iff]
  simp only [endsInWord_false_eq_false_iff]
  constructor
  · rintro ⟨before, _, rfl, -, hbefore, keyword, hkeyword, hstarts⟩
    obtain ⟨run, after, rfl, hspells, hafter⟩ :=
      (startsWithKeyword_iff (hletters keyword hkeyword)).mp hstarts
    refine ⟨run, ⟨before, after, (List.append_assoc ..).symm, ?_, hspells.isWordChar, hbefore,
      hafter⟩, keyword, hkeyword, hspells⟩
    rintro rfl
    cases hspells
    exact hne hkeyword
  · rintro ⟨run, ⟨before, after, rfl, hrun, -, hbefore, hafter⟩, keyword, hkeyword, hspells⟩
    refine ⟨before, run ++ after, List.append_assoc .., by simp [hrun], hbefore, keyword, hkeyword,
      ?_⟩
    exact (startsWithKeyword_iff (hletters keyword hkeyword)).mpr ⟨run, after, rfl, hspells, hafter⟩

theorem IsRun.append_left {before cs run : List Char} (h : IsRun cs run)
    (hbefore : ∀ c ∈ before.getLast?, isWordChar c = false) : IsRun (before ++ cs) run := by
  obtain ⟨start, after, rfl, hne, hrun, hstart, hafter⟩ := h
  refine ⟨before ++ start, after, by simp, hne, hrun, ?_, hafter⟩
  rw [List.getLast?_append]
  cases hlast : start.getLast? with
  | none => simpa [hlast] using hbefore
  | some c => simpa [hlast] using hstart

/-- The words of a text are those before a character that is in no word, and those behind it. -/
theorem isRun_append_cons_iff {as bs run : List Char} {c : Char} (hc : isWordChar c = false) :
    IsRun (as ++ c :: bs) run ↔ IsRun as run ∨ IsRun bs run := by
  constructor
  · rintro ⟨before, after, heq, hne, hrun, hbefore, hafter⟩
    have hmem : c ∉ run := fun hmem => Bool.false_ne_true (hc.symm.trans (hrun c hmem))
    rw [List.append_assoc] at heq
    -- The run does not hold the character, so that it ends before it or starts behind it.
    rcases List.append_eq_append_iff.mp heq with ⟨gap, rfl, hbs⟩ | ⟨gap, rfl, hrest⟩
    · rcases List.cons_eq_append_iff.mp hbs with ⟨-, hstart⟩ | ⟨gap, rfl, rfl⟩
      · obtain ⟨d, ds, rfl⟩ := List.exists_cons_of_ne_nil hne
        exact absurd (List.cons.inj hstart).1.symm fun hd => hmem (hd ▸ List.mem_cons_self)
      · refine Or.inr ⟨gap, after, (List.append_assoc ..).symm, hne, hrun, fun d hd => ?_, hafter⟩
        exact hbefore d (by simp [List.getLast?_append, List.getLast?_cons, Option.mem_def.mp hd])
    · rcases List.append_eq_append_iff.mp hrest with ⟨gap', rfl, rfl⟩ | ⟨gap', rfl, hbs⟩
      · refine Or.inl ⟨before, gap', (List.append_assoc ..).symm, hne, hrun, hbefore, fun d hd => ?_⟩
        exact hafter d (by simp [List.head?_append, Option.mem_def.mp hd])
      · rcases List.cons_eq_append_iff.mp hbs with ⟨rfl, -⟩ | ⟨gap', rfl, -⟩
        · exact Or.inl ⟨before, [], by simp, hne, hrun, hbefore, by simp⟩
        · exact absurd (by simp) hmem
  · rintro (⟨before, after, rfl, hne, hrun, hbefore, hafter⟩ | h)
    · refine ⟨before, after ++ c :: bs, by simp, hne, hrun, hbefore, ?_⟩
      cases after with
      | nil => simpa using hc
      | cons d after => simpa using hafter
    · have happend : IsRun ((as ++ [c]) ++ bs) run := h.append_left (by simpa using hc)
      rwa [List.append_assoc] at happend

end Text

theorem isNormative_iff {text : String} :
    isNormative text = true ↔ ∃ run, Text.IsRun text.toList run ∧
      (Text.Spells run "shall".toList ∨ Text.Spells run "must".toList) := by
  have hletters : normativeKeywords.all (·.all Char.isLower) = true := by decide
  rw [isNormative, Text.containsKeyword_iff (by decide) (by simpa using hletters)]
  simp [normativeKeywords]

/-- A text is normative if one of its words is a keyword, so that the two sides of a character that
is in no word are looked through separately. -/
theorem isNormative_by_words :
    (∀ text, isNormative text = true ↔ ∃ run, Text.IsRun text.toList run ∧
      (Text.Spells run "shall".toList ∨ Text.Spells run "must".toList)) ∧
    ∀ (a b : String) (c : Char), Text.isWordChar c = false →
      (isNormative (a ++ String.singleton c ++ b) = true ↔
        isNormative a = true ∨ isNormative b = true) := by
  refine ⟨fun text => isNormative_iff, fun a b c hc => ?_⟩
  have htext : (a ++ String.singleton c ++ b).toList = a.toList ++ c :: b.toList := by simp
  simp only [isNormative_iff, htext, Text.isRun_append_cons_iff hc, or_and_right, exists_or]

/-- A keyword with a long s before a hyphen, and two that are parts of words. -/
theorem isNormative_of_long_s :
    Text.isWordChar '-' = false ∧
      isNormative ("It \u017FHALL" ++ String.singleton '-' ++ "x") = true ∧
      isNormative ("marshall" ++ String.singleton '-' ++ "mustard") = false := by
  have hhyphen : Text.isWordChar '-' = false := by decide +kernel
  have hspells : Text.Spells "\u017FHALL".toList "shall".toList :=
    .cons .longS (.cons (.capital 'H' rfl) (.cons (.capital 'A' rfl) (.cons (.capital 'L' rfl)
      (.cons (.capital 'L' rfl) .nil))))
  have hblank : Text.isWordChar ' ' = false := by decide +kernel
  have hrun : Text.IsRun "It \u017FHALL".toList "\u017FHALL".toList :=
    ⟨"It ".toList, [], by decide +kernel, by decide, hspells.isWordChar, by simpa using hblank,
      by simp⟩
  have hkeyword : isNormative "It \u017FHALL" = true :=
    (isNormative_by_words.1 _).mpr ⟨_, hrun, Or.inl hspells⟩
  refine ⟨hhyphen, (isNormative_by_words.2 _ "x" '-' hhyphen).mpr (Or.inl hkeyword), ?_⟩
  rw [Bool.eq_false_iff, ne_eq, isNormative_by_words.2 _ _ '-' hhyphen]
  decide +kernel

end SpecReview
