import SpecReview.Merge
import SpecReview.Proofs.Text.Trimming
import SpecReview.Review.Base
import SpecReview.Review.Delta

/-! # Line endings

A line ends with a newline, which may have a carriage return ahead of it, and the last line may
end without either. Texts that differ in no more than that have the same lines, and whatever is
read from a text is read from its lines. -/

namespace SpecReview

namespace Text

/-! ## Carriage returns ahead of newlines -/

/-- The second text is the first with a carriage return put ahead of some of the newlines. -/
inductive WithReturns : List Char → List Char → Prop where
  | nil : WithReturns [] []
  | newline {cs ds} (h : WithReturns cs ds) : WithReturns ('\n' :: cs) ('\n' :: ds)
  | returned {cs ds} (h : WithReturns cs ds) : WithReturns ('\n' :: cs) ('\r' :: '\n' :: ds)
  | other {c cs ds} (hc : c ≠ '\n') (h : WithReturns cs ds) : WithReturns (c :: cs) (c :: ds)

/-- A text without the carriage returns that stand right ahead of a newline. -/
def withoutReturns : List Char → List Char
  | [] => []
  | '\r' :: '\n' :: cs => '\n' :: withoutReturns cs
  | c :: cs => c :: withoutReturns cs

theorem withoutReturns_cons {c : Char} (hc : c ≠ '\r') (cs : List Char) :
    withoutReturns (c :: cs) = c :: withoutReturns cs := by
  rw [withoutReturns]
  rintro _ rfl -
  exact hc rfl

theorem WithReturns.withoutReturns_eq {cs ds : List Char} (h : WithReturns cs ds)
    (hr : '\r' ∉ cs) : withoutReturns ds = cs := by
  induction h with
  | nil => rfl
  | newline h ih =>
      rw [withoutReturns_cons (by decide), ih fun hmem => hr (List.mem_cons_of_mem _ hmem)]
  | returned h ih =>
      rw [withoutReturns, ih fun hmem => hr (List.mem_cons_of_mem _ hmem)]
  | other hc h ih =>
      rw [List.mem_cons, not_or] at hr
      rw [withoutReturns_cons (Ne.symm hr.1), ih hr.2]

theorem withReturns_withoutReturns (ds : List Char) : WithReturns (withoutReturns ds) ds := by
  fun_induction withoutReturns ds with
  | case1 => exact .nil
  | case2 ds ih => exact .returned ih
  | case3 c ds hreturned ih =>
      by_cases hc : c = '\n'
      · subst hc
        exact .newline ih
      · exact .other hc ih

/-- The texts that come from one without carriage returns are those that give it back. -/
theorem withReturns_iff {cs ds : List Char} (hr : '\r' ∉ cs) :
    WithReturns cs ds ↔ withoutReturns ds = cs :=
  ⟨fun h => h.withoutReturns_eq hr, fun h => h ▸ withReturns_withoutReturns ds⟩

/-! ## Texts with the same lines -/

theorem WithReturns.lines_eq {cs ds : List Char} (h : WithReturns cs ds) (hr : '\r' ∉ cs) :
    lines ds = lines cs := by
  induction h with
  | nil => rfl
  | newline h ih =>
      exact congrArg (List.cons []) (ih fun hmem => hr (List.mem_cons_of_mem _ hmem))
  | returned h ih =>
      exact congrArg (List.cons []) (ih fun hmem => hr (List.mem_cons_of_mem _ hmem))
  | other hc h ih =>
      rw [List.mem_cons, not_or] at hr
      have hreturn {cs : List Char} (he : _ = '\r') : cs.head? ≠ some '\n' := absurd he.symm hr.1
      rw [lines_cons hc hreturn, lines_cons hc hreturn, ih hr.2]

/-- A newline that ends the last line adds none. -/
theorem lines_append_of_not_terminated {cs : List Char} (hr : '\r' ∉ cs) (h : ¬ Terminated cs) :
    lines (cs ++ ['\n']) = lines cs := by
  rw [Terminated, not_or] at h
  have hreturn : ∀ l ∈ lines cs, l.getLast? ≠ some '\r' :=
    fun l hl hlast => hr (mem_of_mem_lines hl (List.mem_of_getLast? hlast))
  calc lines (cs ++ ['\n']) = lines (joinLines (lines cs) ++ '\n' :: []) := by
        rw [joinLines_lines hr h.2]
    _ = lines cs ++ lines [] :=
        lines_joinLines_append (lines_ne_nil h.1) (fun _ => newline_notMem_of_mem_lines) hreturn []
    _ = lines cs := List.append_nil _

/-- The second text is the first with other line endings: some of the newlines have a carriage
return ahead of them, and a newline may end the last line if none did. -/
def OtherEndings (cs ds : List Char) : Prop :=
  WithReturns cs ds ∨ ¬ Terminated cs ∧ WithReturns (cs ++ ['\n']) ds

theorem OtherEndings.lines_eq {cs ds : List Char} (h : OtherEndings cs ds) (hr : '\r' ∉ cs) :
    lines ds = lines cs := by
  rcases h with h | ⟨hlast, h⟩
  · exact h.lines_eq hr
  · have hmore : '\r' ∉ cs ++ ['\n'] := by simpa using hr
    rw [h.lines_eq hmore, lines_append_of_not_terminated hr hlast]

/-- A carriage return of the text itself is lost once a newline comes after it. -/
example : lines "a\r".toList = ["a\r".toList] ∧ lines "a\r\n".toList = ["a".toList] := by decide

end Text

open Text

/-! ## What is read from the lines -/

variable {t t' : String}

theorem Section.inText_congr (h : Text.lines t'.toList = Text.lines t.toList) :
    inText t' = inText t := by
  rw [inText, h, ← inText]

theorem Requirement.inText_congr (h : lines t'.toList = lines t.toList) :
    inText t' = inText t := by
  rw [inText, h, ← inText]

theorem Delta.ofText_congr (h : Section.inText t' = Section.inText t) : ofText t' = ofText t := by
  rw [ofText, h, ← ofText]

theorem Delta.obstacle?_congr (h : Requirement.inText t' = Requirement.inText t) (d : Delta) :
    d.obstacle? (some t') = d.obstacle? (some t) := by
  rw [obstacle?, h, ← obstacle?]

theorem Base.review_congr (h : Section.inText t' = Section.inText t) (settings : Settings)
    (path : String) : review settings path t' = review settings path t := by
  rw [review, findings, h, ← findings, ← review]

/-- Texts that differ only in their line endings have the same sections and requirements, with all
that these hold, and the same delta. They get the same review, as a base spec and as a delta, and
stand for each other where a delta meets its base spec. -/
theorem readings_of_otherEndings {t t' : String} (hr : '\r' ∉ t.toList)
    (h : OtherEndings t.toList t'.toList) :
    Section.inText t' = Section.inText t ∧
      Requirement.inText t' = Requirement.inText t ∧
      Delta.ofText t' = Delta.ofText t ∧
      (∀ settings path, Base.review settings path t' = Base.review settings path t) ∧
      (∀ ledger file,
        (Delta.ofText t').review ledger file = (Delta.ofText t).review ledger file) ∧
      (∀ base, (Delta.ofText t').obstacle? base = (Delta.ofText t).obstacle? base) ∧
      ∀ d : Delta, d.obstacle? (some t') = d.obstacle? (some t) := by
  have hlines := h.lines_eq hr
  have hsections : Section.inText t' = Section.inText t := Section.inText_congr hlines
  have hrequirements : Requirement.inText t' = Requirement.inText t :=
    Requirement.inText_congr hlines
  have hdelta : Delta.ofText t' = Delta.ofText t := Delta.ofText_congr hsections
  refine ⟨hsections, hrequirements, hdelta, Base.review_congr hsections, ?_, ?_,
    Delta.obstacle?_congr hrequirements⟩
  · intro ledger file
    rw [hdelta]
  · intro base
    rw [hdelta]

/-- Two of four newlines get a carriage return, and the last line gets both. -/
theorem readings_of_mixed_endings :
    let t := "## ADDED Requirements\n### Requirement: A\nIt MUST.\n\n#### Scenario: s"
    let t' := "## ADDED Requirements\r\n### Requirement: A\nIt MUST.\r\n\n#### Scenario: s\r\n"
    '\r' ∉ t.toList ∧ OtherEndings t.toList t'.toList ∧
      Requirement.inText t' = [⟨"A", 2, "It MUST.\n\n#### Scenario: s", []⟩] ∧
      (Delta.ofText t').added = some ⟨1, Requirement.inText t'⟩ := by
  intro t t'
  have hr : '\r' ∉ t.toList := by decide +kernel
  have h : OtherEndings t.toList t'.toList := by
    refine Or.inr ⟨by decide +kernel, ?_⟩
    exact (withReturns_iff (by decide +kernel)).mpr (by decide +kernel)
  obtain ⟨-, hrequirements, hdelta, -⟩ := readings_of_otherEndings hr h
  refine ⟨hr, h, ?_, ?_⟩
  · rw [hrequirements]
    decide +kernel
  · rw [hrequirements, hdelta]
    decide +kernel

end SpecReview
