import SpecReview.Text.Range

/-! Blanks, which are the characters with the property White_Space: trimming them off the ends
of a text, and the words between them. Trimming takes blanks off and leaves none at the end. -/

namespace SpecReview.Text

/-- The code points with the property White_Space. -/
def blankRanges : List Range :=
  [⟨0x9, 0xD⟩, ⟨0x20, 0x20⟩, ⟨0x85, 0x85⟩, ⟨0xA0, 0xA0⟩, ⟨0x1680, 0x1680⟩, ⟨0x2000, 0x200A⟩,
   ⟨0x2028, 0x2029⟩, ⟨0x202F, 0x202F⟩, ⟨0x205F, 0x205F⟩, ⟨0x3000, 0x3000⟩]

def isBlank (c : Char) : Bool :=
  inRanges c.toNat blankRanges

/-- A text without the blanks it starts with. -/
def trimStart (cs : List Char) : List Char :=
  cs.dropWhile isBlank

/-- A text without the blanks it ends with. -/
def trimEnd : List Char → List Char
  | [] => []
  | c :: cs =>
    match trimEnd cs with
    | [] => if isBlank c then [] else [c]
    | d :: ds => c :: d :: ds

/-- A text without the blanks at either end. -/
def trim (cs : List Char) : List Char :=
  trimEnd (trimStart cs)

/-- The maximal runs of characters that are not blank. -/
def words : List Char → List (List Char)
  | [] => []
  | [c] => if isBlank c then [] else [[c]]
  | c :: d :: cs =>
    if isBlank c then words (d :: cs)
    else if isBlank d then [c] :: words (d :: cs)
    else
      match words (d :: cs) with
      | [] => [[c]]
      | w :: ws => (c :: w) :: ws

theorem blankRanges_ascending : Ascending blankRanges := by decide

/-- Nothing is left of a text of blanks, and of no other. -/
theorem trimEnd_eq_nil_iff {cs : List Char} : trimEnd cs = [] ↔ ∀ c ∈ cs, isBlank c = true := by
  induction cs with
  | nil => simp [trimEnd]
  | cons c cs ih =>
      cases h : trimEnd cs with
      | nil =>
          have hb := ih.mp h
          cases hc : isBlank c <;> simp [trimEnd, h, hc]
          exact hb
      | cons d ds =>
          rw [h] at ih
          simp only [trimEnd, h, reduceCtorEq, List.mem_cons, false_iff]
          intro hall
          exact absurd (ih.mpr fun e he => hall e (Or.inr he)) (by simp)

/-- What is trimmed off the end is blank. -/
theorem exists_append_of_trimEnd (cs : List Char) :
    ∃ bs, cs = trimEnd cs ++ bs ∧ ∀ b ∈ bs, isBlank b = true := by
  induction cs with
  | nil => exact ⟨[], rfl, by simp⟩
  | cons c cs ih =>
      obtain ⟨bs, hcs, hbs⟩ := ih
      cases h : trimEnd cs with
      | nil =>
          rw [h, List.nil_append] at hcs
          subst hcs
          cases hc : isBlank c
          · exact ⟨cs, by simp [trimEnd, h, hc], hbs⟩
          · exact ⟨c :: cs, by simp [trimEnd, h, hc], by simpa [hc] using hbs⟩
      | cons d ds => exact ⟨bs, by simp [trimEnd, h] at hcs ⊢; exact hcs, hbs⟩

/-- A trimmed text does not end in a blank. -/
theorem isBlank_of_getLast?_trimEnd {cs : List Char} {c : Char}
    (h : (trimEnd cs).getLast? = some c) : isBlank c = false := by
  induction cs with
  | nil => simp [trimEnd] at h
  | cons d cs ih =>
      cases ht : trimEnd cs with
      | nil =>
          cases hd : isBlank d
          · simp [trimEnd, ht, hd] at h
            rw [← h, hd]
          · simp [trimEnd, ht, hd] at h
      | cons e es =>
          rw [ht] at ih
          simp only [trimEnd, ht, List.getLast?_cons_cons] at h
          exact ih h

end SpecReview.Text
