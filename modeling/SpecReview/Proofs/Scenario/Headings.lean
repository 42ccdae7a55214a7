import SpecReview.Proofs.Requirement.Position

/-! # The scenarios of a text by its lines

A scenario ends by the level of a line, and the level depends on what the line is. For every line
it comes to the same: the scenario goes on up to the next line that starts with three hashes. A
marker in bold text, behind a bullet or behind blanks does not, and stays inside. -/

namespace SpecReview

open Text

/-- Whether a line is the heading of a block or in its body. -/
def Block.Covers {α : Type} (b : Block α) (n : Nat) : Prop :=
  b.line ≤ n ∧ n ≤ b.line + b.body.length

theorem lt_length_takeWhile_iff {α : Type} {p : α → Bool} {as : List α} {i : Nat} :
    i < (as.takeWhile p).length ↔ i < as.length ∧ ∀ j ≤ i, ∀ a ∈ as[j]?, p a = true := by
  induction as generalizing i with
  | nil => simp
  | cons a as ih =>
      cases ha : p a with
      | false =>
          simp only [List.takeWhile_cons, ha, Bool.false_eq_true, if_false, List.length_nil,
            Nat.not_lt_zero, false_iff, not_and]
          intro _ hall
          have hfirst := hall 0 (Nat.zero_le i) a rfl
          exact absurd (ha.symm.trans hfirst) Bool.false_ne_true
      | true =>
          rw [List.takeWhile_cons_of_pos ha, List.length_cons, List.length_cons]
          cases i with
          | zero =>
              refine iff_of_true (Nat.succ_pos _) ⟨Nat.succ_pos _, ?_⟩
              intro j hj b hb
              obtain rfl : j = 0 := by omega
              obtain rfl : a = b := by simpa using hb
              exact ha
          | succ i =>
              rw [Nat.succ_lt_succ_iff, ih, Nat.succ_lt_succ_iff]
              refine and_congr_right fun _ => ⟨fun hall j hj b hb => ?_, fun hall j hj b hb => ?_⟩
              · cases j with
                | zero =>
                    obtain rfl : a = b := by simpa using hb
                    exact ha
                | succ j => exact hall j (Nat.le_of_succ_le_succ hj) b (by simpa using hb)
              · exact hall (j + 1) (Nat.succ_le_succ hj) b (by simpa using hb)

namespace Scenario

/-- Whether a line starts with three hashes, as a heading of level three or deeper does. -/
def Deep (l : List Char) : Prop :=
  "###".toList <+: l

instance : DecidablePred Deep :=
  fun l => inferInstanceAs (Decidable ("###".toList <+: l))

/-! ## Lines that end a scenario -/

theorem closes_iff {l : List Char} : closes l = true ↔ Deep l := by
  rw [closes, decide_eq_true_eq, Line.level_eq_hashes, Line.le_hashes_iff]
  rfl

theorem deep_of_scenarioHead {l : List Char} (h : Line.kind l = .scenarioHead) : Deep l := by
  have hhashes := Line.hashes_of_isScenario (Line.kind_eq_scenarioHead_iff.mp h)
  exact (Line.le_hashes_iff (n := 3)).mp (by omega)

/-- Of the markers that do not count only the headings of their own start with three hashes. -/
theorem deep_iff_of_malformedScenario {l : List Char} (h : Line.kind l = .malformedScenario) :
    Deep l ↔ l.head? = some '#' := by
  have hhashes := Line.hashes_of_isMalformedScenario (Line.kind_eq_malformedScenario_iff.mp h)
  have hdeep : Deep l ↔ 3 ≤ Line.hashes l := (Line.le_hashes_iff (n := 3)).symm
  have hhead : l.head? = some '#' ↔ 1 ≤ Line.hashes l := by
    rw [Line.le_hashes_iff]
    cases l <;> simp [eq_comm]
  rw [hdeep, hhead]
  simp only [List.mem_cons, List.not_mem_nil, or_false] at hhashes
  omega

/-- A scenario goes on with the lines that do not start with three hashes. -/
theorem continues_eq (l : List Char) : Block.continues opening? closes l = decide (¬ Deep l) := by
  have hcloses : closes l = decide (Deep l) := by
    rw [Bool.eq_iff_iff, closes_iff, decide_eq_true_eq]
  rw [Block.continues, hcloses, opening?]
  by_cases hkind : Line.kind l = .scenarioHead
  · simp [hkind, deep_of_scenarioHead hkind]
  · simp [hkind]

/-- The blocks of lines that are the scenarios of a text. -/
def blocks (text : String) : List (Block (List Char)) :=
  Block.all opening? closes 1 (lines text.toList)

variable {text : String} {b : Block (List Char)} {n : Nat} {l : List Char}

theorem body_eq_of_mem_blocks (h : b ∈ blocks text) :
    b.body = ((lines text.toList).drop b.line).takeWhile (¬ Deep ·) := by
  have hbody : b.body =
      ((lines text.toList).drop b.line).takeWhile (Block.continues opening? closes) :=
    (Block.body_eq_takeWhile h).2
  rw [hbody, funext continues_eq]

theorem map_line_head_blocks (text : String) :
    (blocks text).map (fun b => (b.line, b.head)) =
      (numberFrom 1 (lines text.toList)).filter (Line.kind ·.2 = .scenarioHead) := by
  have hopening : (fun x : Nat × List Char => (opening? x.2).map (x.1, ·)) =
      Option.guard fun x => decide (Line.kind x.2 = .scenarioHead) := by
    funext x
    by_cases hkind : Line.kind x.2 = .scenarioHead <;> simp [opening?, Option.guard, hkind]
  rw [blocks, Block.all, Block.map_line_head_cut, ← List.filterMap_eq_filter, ← hopening]

theorem scenarioHead_of_mem_blocks (h : b ∈ blocks text) :
    LineAt text b.line b.head ∧ Line.kind b.head = .scenarioHead := by
  have hmem := List.mem_map_of_mem (f := fun b => (b.line, b.head)) h
  rw [map_line_head_blocks, List.mem_filter] at hmem
  exact ⟨hmem.1, of_decide_eq_true hmem.2⟩

/-! ## The lines of a scenario -/

/-- A line is one of a scenario if neither it nor a line between it and the heading starts with
three hashes. -/
theorem covers_iff (h : b ∈ blocks text) (hl : LineAt text n l) :
    b.Covers n ↔ b.line ≤ n ∧
      ∀ k m, b.line < k → k ≤ n → LineAt text k m → ¬ Deep m := by
  obtain ⟨-, hn, -⟩ := lineAt_iff.mp hl
  refine and_congr_right fun hline => ?_
  by_cases hhead : n = b.line
  · refine iff_of_true (by omega) ?_
    intro k m hk hkn
    omega
  · have hindex : n ≤ b.line + b.body.length ↔ n - b.line - 1 < b.body.length := by omega
    rw [hindex, body_eq_of_mem_blocks h, lt_length_takeWhile_iff, List.length_drop]
    constructor
    · rintro ⟨-, hall⟩ k m hk hkn hm
      obtain ⟨-, -, hm⟩ := lineAt_iff.mp hm
      have hoffset : b.line + (k - b.line - 1) = k - 1 := by omega
      have hnot := hall (k - b.line - 1) (by omega) m (by rw [List.getElem?_drop, hoffset, hm]; rfl)
      exact of_decide_eq_true hnot
    · intro hall
      refine ⟨by omega, ?_⟩
      intro j hj m hm
      rw [List.getElem?_drop] at hm
      obtain ⟨hlt, -⟩ := List.getElem?_eq_some_iff.mp hm
      have hat : LineAt text (b.line + j + 1) m := lineAt_iff.mpr ⟨by omega, by omega, hm⟩
      exact decide_eq_true (hall _ m (by omega) (by omega) hat)

/-- A scenario takes the line after one of its own unless that starts with three hashes. -/
theorem covers_succ_iff (h : b ∈ blocks text) (hn : b.Covers n) (hl : LineAt text (n + 1) l) :
    b.Covers (n + 1) ↔ ¬ Deep l := by
  have hline := hn.1
  rw [covers_iff h hl]
  constructor
  · intro hall
    exact hall.2 (n + 1) l (by omega) (Nat.le_refl _) hl
  · intro hshallow
    refine ⟨by omega, ?_⟩
    intro k m hk hkn hm
    by_cases hlast : k = n + 1
    · subst hlast
      obtain ⟨-, -, hm⟩ := lineAt_iff.mp hm
      obtain ⟨-, -, hl⟩ := lineAt_iff.mp hl
      rw [hl, Option.some.injEq] at hm
      rwa [← hm]
    · have hend := hn.2
      have hinside : b.Covers k := ⟨by omega, by omega⟩
      exact ((covers_iff h hm).mp hinside).2 k m hk (Nat.le_refl k) hm

/-- What the lines of a text say about its scenarios: each scenario heading has one, in the order
of the lines, with the lines down to the next that starts with three hashes. -/
structure ByHeadings (text : String) (bs : List (Block (List Char))) : Prop where
  inText_eq : inText text = bs.map fun b => String.ofList (trim (joinLines (b.head :: b.body)))
  headings : bs.map (fun b => (b.line, b.head)) =
    (numberFrom 1 (lines text.toList)).filter (Line.kind ·.2 = .scenarioHead)
  body_eq : ∀ b ∈ bs, b.body = ((lines text.toList).drop b.line).takeWhile (¬ Deep ·)
  /-- A marker in bold text, behind a bullet or behind blanks stays inside a scenario, and one that
  starts with its hashes ends it. -/
  marker : ∀ b ∈ bs, ∀ n l, b.Covers n → LineAt text (n + 1) l →
    Line.kind l = .malformedScenario → (b.Covers (n + 1) ↔ l.head? ≠ some '#')
  /-- The lines before the first heading are in no scenario. -/
  ahead : ∀ n l, LineAt text n l →
    (∀ k m, k ≤ n → LineAt text k m → Line.kind m ≠ .scenarioHead) → ∀ b ∈ bs, ¬ b.Covers n
  /-- Nor are those from a line of three hashes on, up to the next heading of a scenario. -/
  closed : ∀ k m n l, LineAt text k m → Deep m → k ≤ n → LineAt text n l →
    (∀ j m', k ≤ j → j ≤ n → LineAt text j m' → Line.kind m' ≠ .scenarioHead) →
      ∀ b ∈ bs, ¬ b.Covers n

/-- The scenarios of every text are those that its lines call for, by the plain count of hashes
and whatever kinds of lines come between. -/
theorem byHeadings_blocks (text : String) : ByHeadings text (blocks text) where
  inText_eq := rfl
  headings := map_line_head_blocks text
  body_eq b hb := body_eq_of_mem_blocks hb
  marker b hb n l hcovers hl hkind := by
    rw [covers_succ_iff hb hcovers hl, deep_iff_of_malformedScenario hkind]
  ahead n l hl hnone b hb hcovers := by
    obtain ⟨hhead, hkind⟩ := scenarioHead_of_mem_blocks hb
    exact hnone b.line b.head hcovers.1 hhead hkind
  closed k m n l hm hdeep hkn hl hnone b hb hcovers := by
    obtain ⟨hhead, hkind⟩ := scenarioHead_of_mem_blocks hb
    have hbefore : b.line < k := by
      by_contra hle
      exact hnone b.line b.head (by omega) hcovers.1 hhead hkind
    exact ((covers_iff hb hl).mp hcovers).2 k m hbefore hkn hm hdeep

end Scenario

end SpecReview
