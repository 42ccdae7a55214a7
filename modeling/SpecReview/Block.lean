import SpecReview.Text.Lines

/-! Blocks of lines: a line that opens one, and the lines after it up to the next line that opens
or closes a block. Every opening line opens a block, in order; a block stands where its number
says, and no line of its body opens or closes one. -/

namespace SpecReview

/-- The lines after an opening line, which is numbered and known by what it opens. -/
structure Block (α : Type) where
  head : α
  line : Nat
  body : List (List Char)

namespace Block

variable {α : Type}

/-- Cuts lines into blocks, the first line having the given number. The first component is the
body of a block opened before these lines; lines that belong to no block are dropped. -/
def cut (opens : List Char → Option α) (closes : List Char → Bool) :
    Nat → List (List Char) → List (List Char) × List (Block α)
  | _, [] => ([], [])
  | n, l :: ls =>
    let (body, blocks) := cut opens closes (n + 1) ls
    match opens l with
    | some head => ([], ⟨head, n, body⟩ :: blocks)
    | none => if closes l then ([], blocks) else (l :: body, blocks)

/-- The blocks of lines of which the first has the given number. -/
def all (opens : List Char → Option α) (closes : List Char → Bool) (first : Nat)
    (ls : List (List Char)) : List (Block α) :=
  (cut opens closes first ls).2

/-- The lines of the body with their numbers. -/
def numbered (b : Block α) : List (Nat × List Char) :=
  Text.numberFrom (b.line + 1) b.body

/-- Every line that opens a block opens one, in order. -/
theorem map_head_cut (opens : List Char → Option α) (closes : List Char → Bool) (n : Nat)
    (ls : List (List Char)) : (cut opens closes n ls).2.map (·.head) = ls.filterMap opens := by
  induction ls generalizing n with
  | nil => rfl
  | cons l ls ih =>
      cases ho : opens l with
      | none => cases hc : closes l <;> simp [cut, ho, hc, ih]
      | some head => simp [cut, ho, ih]

/-- The lines ahead of the first block neither open nor close one. -/
theorem of_mem_cut_fst {opens : List Char → Option α} {closes : List Char → Bool} {n : Nat}
    {ls : List (List Char)} {l : List Char} (h : l ∈ (cut opens closes n ls).1) :
    opens l = none ∧ closes l = false := by
  induction ls generalizing n with
  | nil => simp [cut] at h
  | cons m ls ih =>
      cases ho : opens m with
      | some head => simp [cut, ho] at h
      | none =>
          cases hc : closes m with
          | true => simp [cut, ho, hc] at h
          | false =>
              simp only [cut, ho, hc, Bool.false_eq_true, if_false, List.mem_cons] at h
              rcases h with rfl | h
              · exact ⟨ho, hc⟩
              · exact ih h

/-- The lines of a body neither open nor close a block. -/
theorem of_mem_body {opens : List Char → Option α} {closes : List Char → Bool} {n : Nat}
    {ls : List (List Char)} {b : Block α} (hb : b ∈ (cut opens closes n ls).2) {l : List Char}
    (hl : l ∈ b.body) : opens l = none ∧ closes l = false := by
  induction ls generalizing n with
  | nil => simp [cut] at hb
  | cons m ls ih =>
      cases ho : opens m with
      | some head =>
          simp only [cut, ho, List.mem_cons] at hb
          rcases hb with rfl | hb
          · exact of_mem_cut_fst hl
          · exact ih hb
      | none =>
          have hb : b ∈ (cut opens closes (n + 1) ls).2 := by
            cases hc : closes m <;>
              simpa only [cut, ho, hc, if_true, if_false, Bool.false_eq_true] using hb
          exact ih hb

/-- The lines ahead of the first block are the first of all lines. -/
theorem cut_fst_prefix (opens : List Char → Option α) (closes : List Char → Bool) (n : Nat)
    (ls : List (List Char)) : (cut opens closes n ls).1 <+: ls := by
  induction ls generalizing n with
  | nil => exact List.nil_prefix
  | cons l ls ih =>
      cases ho : opens l with
      | some head => simp [cut, ho]
      | none =>
          cases hc : closes l
          · simpa [cut, ho, hc, List.prefix_cons_iff] using ih (n + 1)
          · simp [cut, ho, hc]

/-- A block stands where its number says: the line there opens it, and its body follows. -/
theorem of_mem_cut {opens : List Char → Option α} {closes : List Char → Bool} {n : Nat}
    {ls : List (List Char)} {b : Block α} (hb : b ∈ (cut opens closes n ls).2) :
    ∃ before l after, ls = before ++ l :: after ∧ b.line = n + before.length ∧
      opens l = some b.head ∧ b.body <+: after := by
  induction ls generalizing n with
  | nil => simp [cut] at hb
  | cons m ls ih =>
      cases ho : opens m with
      | some head =>
          simp only [cut, ho, List.mem_cons] at hb
          rcases hb with rfl | hb
          · exact ⟨[], m, ls, rfl, rfl, ho, cut_fst_prefix ..⟩
          · obtain ⟨before, l, after, rfl, hn, hl, hp⟩ := ih hb
            exact ⟨m :: before, l, after, rfl, by simp only [List.length_cons]; omega, hl, hp⟩
      | none =>
          have hb : b ∈ (cut opens closes (n + 1) ls).2 := by
            cases hc : closes m <;>
              simpa only [cut, ho, hc, if_true, if_false, Bool.false_eq_true] using hb
          obtain ⟨before, l, after, rfl, hn, hl, hp⟩ := ih hb
          exact ⟨m :: before, l, after, rfl, by simp only [List.length_cons]; omega, hl, hp⟩

end Block

end SpecReview
