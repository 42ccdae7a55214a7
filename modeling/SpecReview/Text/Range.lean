/-! Ranges of code points in ascending order, and membership in them, which is decided by the
first range that ends late enough. -/

namespace SpecReview.Text

/-- A run of code points, both ends included. -/
structure Range where
  first : Nat
  last : Nat
  deriving DecidableEq

/-- Membership in ranges that stand in ascending order: the first one that ends at or after
the code point decides. -/
def inRanges (n : Nat) : List Range → Bool
  | [] => false
  | r :: rs => if n ≤ r.last then decide (r.first ≤ n) else inRanges n rs

/-- Ranges in ascending order with a gap between neighbours, none of them empty. -/
def Ascending : List Range → Prop
  | [] => True
  | [r] => r.first ≤ r.last
  | r :: s :: rs => r.first ≤ r.last ∧ r.last < s.first ∧ Ascending (s :: rs)

/-- The test of neighbours that decides whether ranges ascend. -/
def ascends : List Range → Bool
  | [] => true
  | [r] => r.first ≤ r.last
  | r :: s :: rs => r.first ≤ r.last && r.last < s.first && ascends (s :: rs)

theorem ascends_iff {rs : List Range} : ascends rs = true ↔ Ascending rs := by
  fun_induction ascends rs <;> simp_all [Ascending, and_assoc]

instance : DecidablePred Ascending := fun _ => decidable_of_iff _ ascends_iff

theorem Ascending.tail {r : Range} {rs : List Range} (h : Ascending (r :: rs)) : Ascending rs := by
  cases rs with
  | nil => trivial
  | cons s rs => exact h.2.2

theorem Ascending.head_le {r : Range} {rs : List Range} (h : Ascending (r :: rs)) :
    r.first ≤ r.last := by
  cases rs with
  | nil => exact h
  | cons s rs => exact h.1

theorem Ascending.lt_of_mem {r : Range} {rs : List Range} (h : Ascending (r :: rs)) :
    ∀ s ∈ rs, r.last < s.first := by
  induction rs generalizing r with
  | nil => simp
  | cons t rs ih =>
      intro s hs
      rcases List.mem_cons.mp hs with rfl | hs
      · exact h.2.1
      · exact Nat.lt_trans h.2.1 (Nat.lt_of_le_of_lt h.tail.head_le (ih h.tail s hs))

/-- The early stop loses nothing: membership is membership in one of the ranges. -/
theorem inRanges_iff {n : Nat} {rs : List Range} (h : Ascending rs) :
    inRanges n rs = true ↔ ∃ r ∈ rs, r.first ≤ n ∧ n ≤ r.last := by
  induction rs with
  | nil => simp [inRanges]
  | cons r rs ih =>
      simp only [inRanges]
      split
      · rename_i hn
        constructor
        · intro hr
          exact ⟨r, by simp, by simpa using hr, hn⟩
        · rintro ⟨s, hs, hf, hl⟩
          rcases List.mem_cons.mp hs with rfl | hs
          · simpa using hf
          · have := h.lt_of_mem s hs
            omega
      · rename_i hn
        rw [ih h.tail]
        constructor
        · rintro ⟨s, hs, hb⟩
          exact ⟨s, List.mem_cons_of_mem _ hs, hb⟩
        · rintro ⟨s, hs, hf, hl⟩
          rcases List.mem_cons.mp hs with rfl | hs
          · exact absurd hl hn
          · exact ⟨s, hs, hf, hl⟩

end SpecReview.Text
