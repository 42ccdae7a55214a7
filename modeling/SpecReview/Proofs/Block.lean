import Mathlib.Data.List.Forall2
import SpecReview.Block

/-! # Blocks among the lines

Where the heading and the body of a block stand among the lines, and the other way round: lines
that are put together from headings and bodies are cut into the same blocks again. -/

namespace SpecReview

namespace Text

/-! ## Numbered lines -/

theorem numberFrom_append (n : Nat) (ls ms : List (List Char)) :
    numberFrom n (ls ++ ms) = numberFrom n ls ++ numberFrom (n + ls.length) ms := by
  induction ls generalizing n with
  | nil => rfl
  | cons l ls ih =>
      have hlength : n + 1 + ls.length = n + (l :: ls).length := by
        rw [List.length_cons]
        omega
      rw [List.cons_append, numberFrom, ih, numberFrom, hlength, List.cons_append]

theorem numberFrom_add (n k : Nat) (ls : List (List Char)) :
    numberFrom (n + k) ls = (numberFrom n ls).map fun (m, l) => (m + k, l) := by
  induction ls generalizing n with
  | nil => rfl
  | cons l ls ih =>
      have hnext : n + k + 1 = n + 1 + k := Nat.add_right_comm ..
      rw [numberFrom, hnext, ih, numberFrom, List.map_cons]

theorem mem_numberFrom_iff {first n : Nat} {l : List Char} {ls : List (List Char)} :
    (n, l) ∈ numberFrom first ls ↔ first ≤ n ∧ ls[n - first]? = some l := by
  induction ls generalizing first with
  | nil => simp [numberFrom]
  | cons m ls ih =>
      rw [numberFrom, List.mem_cons, ih, Prod.mk.injEq]
      constructor
      · rintro (⟨rfl, rfl⟩ | ⟨hn, hl⟩)
        · simp
        · have hindex : n - first = n - (first + 1) + 1 := by omega
          rw [hindex, List.getElem?_cons_succ]
          exact ⟨by omega, hl⟩
      · rintro ⟨hn, hl⟩
        by_cases hfirst : n = first
        · simp only [hfirst, Nat.sub_self, List.getElem?_cons_zero, Option.some.injEq] at hl
          exact Or.inl ⟨hfirst, hl.symm⟩
        · have hindex : n - first = n - (first + 1) + 1 := by omega
          rw [hindex, List.getElem?_cons_succ] at hl
          exact Or.inr ⟨by omega, hl⟩

theorem pairwise_numberFrom (first : Nat) (ls : List (List Char)) :
    (numberFrom first ls).Pairwise fun x y => x.1 < y.1 := by
  induction ls generalizing first with
  | nil => exact .nil
  | cons l ls ih =>
      rw [numberFrom, List.pairwise_cons]
      refine ⟨?_, ih (first + 1)⟩
      rintro ⟨n, m⟩ hm
      exact (mem_numberFrom_iff.mp hm).1

end Text

namespace Block

variable {α β : Type} {opens : List Char → Option α} {closes : List Char → Bool}

/-! ## Bodies -/

/-- Whether a line goes on with a block. -/
def continues (opens : List Char → Option α) (closes : List Char → Bool) (l : List Char) : Bool :=
  (opens l).isNone && !closes l

theorem cut_fst_eq_takeWhile (opens : List Char → Option α) (closes : List Char → Bool) (n : Nat)
    (ls : List (List Char)) :
    (cut opens closes n ls).1 = ls.takeWhile (continues opens closes) := by
  induction ls generalizing n with
  | nil => rfl
  | cons l ls ih =>
      cases ho : opens l with
      | some head => simp [cut, continues, ho]
      | none => cases hc : closes l <;> simp [cut, continues, ho, hc, ih]

/-- The body of a block is what follows its heading, as far as no line opens or closes a block. -/
theorem body_eq_takeWhile {n : Nat} {ls : List (List Char)} {b : Block α}
    (hb : b ∈ (cut opens closes n ls).2) :
    n ≤ b.line ∧ b.body = (ls.drop (b.line + 1 - n)).takeWhile (continues opens closes) := by
  induction ls generalizing n with
  | nil => simp [cut] at hb
  | cons m ls ih =>
      have hlater (h : b ∈ (cut opens closes (n + 1) ls).2) : n ≤ b.line ∧
          b.body = ((m :: ls).drop (b.line + 1 - n)).takeWhile (continues opens closes) := by
        obtain ⟨hline, hbody⟩ := ih h
        have hdrop : b.line + 1 - n = b.line + 1 - (n + 1) + 1 := by omega
        rw [hdrop, List.drop_succ_cons]
        exact ⟨by omega, hbody⟩
      cases ho : opens m with
      | some head =>
          simp only [cut, ho, List.mem_cons] at hb
          rcases hb with rfl | hb
          · have hdrop : n + 1 - n = 1 := by omega
            rw [hdrop]
            exact ⟨Nat.le_refl n, cut_fst_eq_takeWhile opens closes (n + 1) ls⟩
          · exact hlater hb
      | none =>
          apply hlater
          cases hc : closes m <;>
            simpa only [cut, ho, hc, if_true, if_false, Bool.false_eq_true] using hb

/-! ## The numbers of blocks -/

theorem numbered_subset {n : Nat} {ls : List (List Char)} {b : Block α}
    (hb : b ∈ (cut opens closes n ls).2) : b.numbered ⊆ Text.numberFrom n ls := by
  obtain ⟨before, l, after, rfl, hline, -, rest, rfl⟩ := of_mem_cut hb
  have hbody : n + before.length + 1 = b.line + 1 := by omega
  rw [Text.numberFrom_append, Text.numberFrom, hbody, Text.numberFrom_append]
  exact fun x hx => List.mem_append_right _ (List.mem_cons_of_mem _ (List.mem_append_left _ hx))

/-- Every line that opens a block opens one under its number, in order. -/
theorem map_line_head_cut (opens : List Char → Option α) (closes : List Char → Bool) (n : Nat)
    (ls : List (List Char)) : (cut opens closes n ls).2.map (fun b => (b.line, b.head)) =
      (Text.numberFrom n ls).filterMap fun (k, l) => (opens l).map (k, ·) := by
  induction ls generalizing n with
  | nil => rfl
  | cons l ls ih =>
      cases ho : opens l with
      | none => cases hc : closes l <;> simp [cut, Text.numberFrom, ho, hc, ih]
      | some head => simp [cut, Text.numberFrom, ho, ih]

theorem pairwise_line (opens : List Char → Option α) (closes : List Char → Bool) (n : Nat)
    (ls : List (List Char)) : (cut opens closes n ls).2.Pairwise fun b c => b.line < c.line := by
  have hheadings : ((cut opens closes n ls).2.map fun b => (b.line, b.head)).Pairwise
      fun x y => x.1 < y.1 := by
    rw [map_line_head_cut, List.pairwise_filterMap]
    refine (Text.pairwise_numberFrom n ls).imp ?_
    rintro ⟨j, l⟩ ⟨k, m⟩ hlt x hx y hy
    obtain ⟨_, -, rfl⟩ := Option.map_eq_some_iff.mp hx
    obtain ⟨_, -, rfl⟩ := Option.map_eq_some_iff.mp hy
    exact hlt
  rwa [List.pairwise_map] at hheadings

theorem exists_heading {n : Nat} {ls : List (List Char)} {b : Block α}
    (hb : b ∈ (cut opens closes n ls).2) :
    ∃ l, (b.line, l) ∈ Text.numberFrom n ls ∧ opens l = some b.head := by
  have hmem := List.mem_map_of_mem (f := fun b => (b.line, b.head)) hb
  rw [map_line_head_cut, List.mem_filterMap] at hmem
  obtain ⟨⟨k, l⟩, hl, heq⟩ := hmem
  obtain ⟨head, hhead, heq⟩ := Option.map_eq_some_iff.mp heq
  obtain ⟨rfl, rfl⟩ := Prod.mk.inj heq
  exact ⟨l, hl, hhead⟩

/-- Blocks move down with their lines. -/
theorem cut_add (opens : List Char → Option α) (closes : List Char → Bool) (n k : Nat)
    (ls : List (List Char)) :
    cut opens closes (n + k) ls =
      ((cut opens closes n ls).1,
        (cut opens closes n ls).2.map fun b => { b with line := b.line + k }) := by
  induction ls generalizing n with
  | nil => rfl
  | cons l ls ih =>
      have hnext : n + k + 1 = n + 1 + k := Nat.add_right_comm ..
      rw [cut, hnext, ih, cut]
      cases ho : opens l with
      | some head => rfl
      | none => cases hc : closes l <;> rfl

/-! ## Blocks within blocks -/

/-- If a line that opens an outer block closes every inner one, then the inner blocks are those
ahead of the first outer block followed by those in the body of each. -/
theorem cut_eq_of_outer {outer : List Char → Option β}
    (h : ∀ l head, outer l = some head → opens l = none ∧ closes l = true) (n : Nat)
    (ls : List (List Char)) :
    cut opens closes n ls =
      let (ahead, blocks) := cut outer (fun _ => false) n ls
      ((cut opens closes n ahead).1,
        all opens closes n ahead ++ blocks.flatMap fun b => all opens closes (b.line + 1) b.body) := by
  induction ls generalizing n with
  | nil => rfl
  | cons l ls ih =>
      rw [cut, ih (n + 1), cut]
      cases hl : outer l with
      | some head =>
          obtain ⟨hopen, hclose⟩ := h l head hl
          simp [hopen, hclose, all, cut]
      | none =>
          cases ho : opens l with
          | some head => simp [all, cut, ho]
          | none => cases hc : closes l <;> simp [all, cut, ho, hc]

/-! ## Lines that were put together -/

theorem cut_append {body : List (List Char)}
    (h : ∀ l ∈ body, opens l = none ∧ closes l = false) (n : Nat) (ls : List (List Char)) :
    cut opens closes n (body ++ ls) =
      (body ++ (cut opens closes (n + body.length) ls).1,
        (cut opens closes (n + body.length) ls).2) := by
  induction body generalizing n with
  | nil => rfl
  | cons l body ih =>
      obtain ⟨ho, hc⟩ := h l (by simp)
      have hlength : n + (l :: body).length = n + 1 + body.length := by
        rw [List.length_cons]
        omega
      rw [List.cons_append, cut, ih fun m hm => h m (List.mem_cons_of_mem l hm), ho, hc, hlength]
      rfl

/-- A line that opens a block ends the blocks ahead of it. -/
theorem cut_append_cons {l : List Char} {head : α} (h : opens l = some head) (n : Nat)
    (ls ms : List (List Char)) :
    cut opens closes n (ls ++ l :: ms) =
      ((cut opens closes n ls).1,
        (cut opens closes n ls).2 ++ (cut opens closes (n + ls.length) (l :: ms)).2) := by
  induction ls generalizing n with
  | nil => simp [cut, h]
  | cons k ls ih =>
      have hlength : n + (k :: ls).length = n + 1 + ls.length := by
        rw [List.length_cons]
        omega
      rw [List.cons_append, cut, ih, hlength]
      cases ho : opens k with
      | some _ => simp [cut, ho]
      | none => cases hc : closes k <;> simp [cut, ho, hc]

theorem forall₂_all_flatMap {line : β → List Char} {head : β → α} {body : β → List (List Char)}
    {gs : List β} (hopen : ∀ g ∈ gs, opens (line g) = some (head g))
    (hbody : ∀ g ∈ gs, ∀ l ∈ body g, opens l = none ∧ closes l = false) (n : Nat) :
    List.Forall₂ (fun g b => b.head = head g ∧ b.body = body g) gs
      (all opens closes n (gs.flatMap fun g => line g :: body g)) := by
  induction gs generalizing n with
  | nil => exact .nil
  | cons g gs ih =>
      have ih := ih (fun g' h => hopen g' (List.mem_cons_of_mem g h))
        (fun g' h => hbody g' (List.mem_cons_of_mem g h)) (n + 1 + (body g).length)
      -- The lines after the body start with a heading, so that the body takes none of them.
      have hrest (k : Nat) :
          (cut opens closes k (gs.flatMap fun g => line g :: body g)).1 = [] := by
        cases gs with
        | nil => rfl
        | cons g' gs => simp [cut, hopen g' (by simp)]
      rw [all, List.flatMap_cons, List.cons_append, cut, cut_append (hbody g (by simp)),
        hopen g (by simp), hrest, List.append_nil]
      exact .cons ⟨rfl, rfl⟩ ih

end Block

end SpecReview
