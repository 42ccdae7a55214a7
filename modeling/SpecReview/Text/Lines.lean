/-! The lines of a text, and the text of lines, from which the lines read back. -/

namespace SpecReview.Text

/-- What stands before each newline, less one carriage return that ends it, and what stands
after the last newline unless that is empty. -/
def lines : List Char → List (List Char)
  | [] => []
  | '\n' :: cs => [] :: lines cs
  | '\r' :: '\n' :: cs => [] :: lines cs
  | c :: cs =>
    match lines cs with
    | [] => [[c]]
    | l :: ls => (c :: l) :: ls

/-- Lines with a newline between each two. -/
def joinLines : List (List Char) → List Char
  | [] => []
  | [l] => l
  | l :: m :: ls => l ++ '\n' :: joinLines (m :: ls)

/-- Lines with their numbers, of which the first is given. -/
def numberFrom : Nat → List (List Char) → List (Nat × List Char)
  | _, [] => []
  | n, l :: ls => (n, l) :: numberFrom (n + 1) ls

/-- A character that ends no line joins the first line of what follows. -/
theorem lines_cons {c : Char} {cs : List Char} (hn : c ≠ '\n')
    (hr : c = '\r' → cs.head? ≠ some '\n') :
    lines (c :: cs) = (c :: (lines cs).headD []) :: (lines cs).tail := by
  rw [lines]
  · cases lines cs <;> rfl
  · exact hn
  · intro ds hc hds
    exact hr hc (by simp [hds])

/-- What stands before a newline is a line, unless a carriage return ends it. -/
theorem lines_append_newline {l : List Char} (hn : '\n' ∉ l) (hr : l.getLast? ≠ some '\r')
    (cs : List Char) : lines (l ++ '\n' :: cs) = l :: lines cs := by
  induction l with
  | nil => rfl
  | cons c l ih =>
      rw [List.mem_cons, not_or] at hn
      have hl : l.getLast? ≠ some '\r' := by
        cases l with
        | nil => simp
        | cons d l => simpa [List.getLast?_cons_cons] using hr
      rw [List.cons_append, lines_cons (Ne.symm hn.1) _, ih hn.2 hl]
      · rfl
      · intro hc
        cases l with
        | nil => exact absurd (by simp [hc]) hr
        | cons d l => simpa using fun h => hn.2 (by simp [h])

/-- A text without newlines is one line. -/
theorem lines_of_newline_notMem {l : List Char} (hl : l ≠ []) (hn : '\n' ∉ l) : lines l = [l] := by
  induction l with
  | nil => exact absurd rfl hl
  | cons c l ih =>
      rw [List.mem_cons, not_or] at hn
      cases l with
      | nil => rw [lines_cons (Ne.symm hn.1) (by simp)]; rfl
      | cons d l =>
          rw [lines_cons (Ne.symm hn.1) (fun _ => by simpa using fun h => hn.2 (by simp [h])),
            ih (by simp) hn.2]
          rfl

/-- No line holds a newline. -/
theorem newline_notMem_of_mem_lines {cs l : List Char} (h : l ∈ lines cs) : '\n' ∉ l := by
  fun_induction lines cs generalizing l with
  | case1 => simp at h
  | case2 cs ih =>
      rcases List.mem_cons.mp h with rfl | h
      · simp
      · exact ih h
  | case3 cs ih =>
      rcases List.mem_cons.mp h with rfl | h
      · simp
      · exact ih h
  | case4 c cs hn _ _ ih =>
      rw [List.mem_singleton.mp h, List.mem_singleton]
      exact fun he => hn he.symm
  | case5 c cs hn _ l' ls heq ih =>
      rcases List.mem_cons.mp h with rfl | h
      · rw [List.mem_cons, not_or]
        exact ⟨fun he => hn he.symm, ih (by simp [heq])⟩
      · exact ih (by simp [heq, h])

end SpecReview.Text
