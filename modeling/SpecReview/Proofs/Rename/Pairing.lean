import SpecReview.Proofs.Name.Canonical
import SpecReview.Proofs.Text.Trimming
import SpecReview.Rename

/-! # The two lines of a rename

A rename stands on the line of its old name and takes the first new name that comes before another
old one. A new name that no old name waits for makes a rename of its own. A name that is missing is
empty, and one that is there has more than blanks. -/

namespace SpecReview.Rename

open Text

/-- Whether an old name waits for a new one after a line, given whether one did before. -/
def waits (waiting : Bool) (l : List Char) : Bool :=
  (source? l).isSome || (target? l).isNone && waiting

/-- Whether an old name waits after numbered lines. -/
def waitsAfter (waiting : Bool) (ls : List (Nat × List Char)) : Bool :=
  ls.foldl (fun w x => waits w x.2) waiting

/-- The new name that numbered lines hold for an old one before them. -/
def answer : List (Nat × List Char) → String
  | [] => ""
  | (_, l) :: ls => if (source? l).isSome then "" else (target? l).getD (answer ls)

/-- A rename on one of numbered lines, which are given with whether an old name waits before
them: it goes from the old name on its line to the answer, or it has only the new name on its
line and nothing waits there. -/
def OnLine (waiting : Bool) (ls : List (Nat × List Char)) (r : Rename) : Prop :=
  ∃ before l after, ls = before ++ (r.line, l) :: after ∧
    (source? l = some r.source ∧ r.target = answer after ∨
      source? l = none ∧ target? l = some r.target ∧ r.source = "" ∧
        waitsAfter waiting before = false)

variable {waiting : Bool} {n : Nat} {l : List Char} {ls : List (Nat × List Char)} {r : Rename}

theorem OnLine.cons (h : OnLine (waits waiting l) ls r) : OnLine waiting ((n, l) :: ls) r := by
  obtain ⟨before, m, after, rfl, hside⟩ := h
  exact ⟨(n, l) :: before, m, after, rfl, hside⟩

section

variable {waiting : Option (String × Nat)} {name : String}

theorem of_mem_pair_source (hs : source? l = some name) (h : r ∈ pair waiting ((n, l) :: ls)) :
    (∃ source m, waiting = some (source, m) ∧ r = ⟨source, "", m⟩) ∨
      r ∈ pair (some (name, n)) ls := by
  cases waiting with
  | none =>
      simp only [pair, hs] at h
      exact Or.inr h
  | some w =>
      simp only [pair, hs, List.mem_cons] at h
      exact h.imp_left fun heq => ⟨w.1, w.2, rfl, heq⟩

theorem of_mem_pair_target (hs : source? l = none) (ht : target? l = some name)
    (h : r ∈ pair waiting ((n, l) :: ls)) :
    (∃ source m, waiting = some (source, m) ∧ r = ⟨source, name, m⟩) ∨
      (waiting = none ∧ r = ⟨"", name, n⟩) ∨ r ∈ pair none ls := by
  cases waiting with
  | none =>
      simp only [pair, hs, ht, List.mem_cons] at h
      exact Or.inr (h.imp_left fun heq => ⟨rfl, heq⟩)
  | some w =>
      simp only [pair, hs, ht, List.mem_cons] at h
      exact h.imp (fun heq => ⟨w.1, w.2, rfl, heq⟩) Or.inr

theorem pair_of_neither (hs : source? l = none) (ht : target? l = none) :
    pair waiting ((n, l) :: ls) = pair waiting ls := by
  cases waiting <;> simp [pair, hs, ht]

/-- Renames are paired from one line each, but for the one that waits before the lines. -/
theorem of_mem_pair (h : r ∈ pair waiting ls) :
    (∃ source m, waiting = some (source, m) ∧ r = ⟨source, answer ls, m⟩) ∨
      OnLine waiting.isSome ls r := by
  induction ls generalizing waiting with
  | nil =>
      cases waiting with
      | none => simp [pair] at h
      | some w => exact Or.inl ⟨w.1, w.2, rfl, List.mem_singleton.mp h⟩
  | cons x ls ih =>
      obtain ⟨n, l⟩ := x
      cases hs : source? l with
      | some name =>
          have hwaits : waits waiting.isSome l = true := by simp [waits, hs]
          rcases of_mem_pair_source hs h with ⟨source, m, heq, rfl⟩ | h
          · exact Or.inl ⟨source, m, heq, by simp [answer, hs]⟩
          · rcases ih h with ⟨source, m, heq, rfl⟩ | hline
            · obtain ⟨rfl, rfl⟩ := Prod.mk.inj (Option.some.inj heq)
              exact Or.inr ⟨[], l, ls, rfl, Or.inl ⟨hs, rfl⟩⟩
            · exact Or.inr (.cons (hwaits ▸ hline))
      | none =>
          cases ht : target? l with
          | some name =>
              have hwaits : waits waiting.isSome l = false := by simp [waits, hs, ht]
              rcases of_mem_pair_target hs ht h with ⟨source, m, heq, rfl⟩ | ⟨rfl, rfl⟩ | h
              · exact Or.inl ⟨source, m, heq, by simp [answer, hs, ht]⟩
              · exact Or.inr ⟨[], l, ls, rfl, Or.inr ⟨hs, ht, rfl, rfl⟩⟩
              · rcases ih h with ⟨source, m, heq, -⟩ | hline
                · cases heq
                · exact Or.inr (.cons (hwaits ▸ hline))
          | none =>
              have hwaits : waits waiting.isSome l = waiting.isSome := by simp [waits, hs, ht]
              rw [pair_of_neither hs ht] at h
              rcases ih h with ⟨source, m, heq, rfl⟩ | hline
              · exact Or.inl ⟨source, m, heq, by simp [answer, hs, ht]⟩
              · exact Or.inr (.cons (hwaits.symm ▸ hline))

end

/-- Every rename of numbered lines stands on one of them. -/
theorem onLine_of_mem_inLines (h : r ∈ inLines ls) : OnLine false ls r := by
  rcases of_mem_pair h with ⟨_, _, heq, -⟩ | hline
  · cases heq
  · exact hline

/-! ## Names -/

theorem trimEnd_of_side? {mark : String} {name : String} (h : side? mark l = some name) :
    trimEnd name.toList = name.toList := by
  simp only [side?, bind, pure, Option.bind_eq_some_iff, Option.some.injEq] at h
  obtain ⟨_, -, rest, -, rfl⟩ := h
  rw [sideName, String.toList_ofList, trimEnd_trimEnd]

/-- The answer is the new name on one of the lines, or it is missing. -/
theorem answer_eq_empty_or_exists (ls : List (Nat × List Char)) :
    answer ls = "" ∨ ∃ x ∈ ls, target? x.2 = some (answer ls) := by
  induction ls with
  | nil => exact Or.inl rfl
  | cons x ls ih =>
      obtain ⟨n, l⟩ := x
      rw [answer]
      split
      · exact Or.inl rfl
      · cases ht : target? l with
        | some name => exact Or.inr ⟨(n, l), by simp, ht⟩
        | none => exact ih.imp_right fun ⟨x, hx, ht⟩ => ⟨x, List.mem_cons_of_mem _ hx, ht⟩

/-- What holds of a missing name and of every name on the lines holds of the names of a rename. -/
theorem names_of_mem_inLines {P : String → Prop} (hmissing : P "")
    (hside : ∀ x ∈ ls, ∀ mark name, side? mark x.2 = some name → P name) (h : r ∈ inLines ls) :
    P r.source ∧ P r.target := by
  obtain ⟨before, l, after, rfl, ⟨hs, ht⟩ | ⟨-, ht, hs, -⟩⟩ := onLine_of_mem_inLines h
  · refine ⟨hside (r.line, l) (by simp) _ _ hs, ?_⟩
    rw [ht]
    rcases answer_eq_empty_or_exists after with hempty | ⟨x, hx, htarget⟩
    · rwa [hempty]
    · exact hside x (by simp [hx]) _ _ htarget
  · exact ⟨hs ▸ hmissing, hside (r.line, l) (by simp) _ _ ht⟩

theorem trimEnd_of_mem_inLines (h : r ∈ inLines ls) :
    trimEnd r.source.toList = r.source.toList ∧ trimEnd r.target.toList = r.target.toList :=
  names_of_mem_inLines (P := fun name => trimEnd name.toList = name.toList) rfl
    (fun _ _ _ _ => trimEnd_of_side?) h

/-- Whether a rename is complete can be told from the canonical names. -/
theorem isComplete_iff_of_mem_inLines (h : r ∈ inLines ls) :
    r.isComplete = true ↔ r.sourceKey ≠ "" ∧ r.targetKey ≠ "" := by
  have hempty {name : String} (h : trimEnd name.toList = name.toList) :
      Name.canonical name = "" ↔ name = "" := by
    rw [Name.canonical_eq_empty_iff, ← trimEnd_eq_nil_iff, h, String.toList_eq_nil_iff]
  obtain ⟨hs, ht⟩ := trimEnd_of_mem_inLines h
  rw [sourceKey, targetKey, ne_eq, ne_eq, hempty hs, hempty ht]
  simp [isComplete]

end SpecReview.Rename
