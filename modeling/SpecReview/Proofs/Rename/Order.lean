import SpecReview.Proofs.Rename.Pairing
import SpecReview.Review.Delta

/-! # The names of renames in order

Read from top to bottom, the lines of renames are a list of old and new names. Pairing takes up
each name of the list once and in order: an old name and a new one next to it make one rename, and
every other name makes a rename of its own. -/

namespace SpecReview.Rename

/-- A name of a rename, as a line has it. -/
structure Mark where
  line : Nat
  side : Side
  name : String
  deriving DecidableEq

/-- The names on numbered lines. Lines with neither an old name nor a new one are passed over. -/
def marks (ls : List (Nat × List Char)) : List Mark :=
  ls.flatMap fun (n, l) =>
    ((source? l).map (⟨n, .source, ·⟩)).toList ++ ((target? l).map (⟨n, .target, ·⟩)).toList

/-- The names that a rename has, the old one first. -/
def sides (r : Rename) : List (Side × String) :=
  [(.source, r.source), (.target, r.target)].filter (·.2 ≠ "")

/-- The rename that a name makes between the names before and after it. A new name makes none if
the one before it is old, since it then goes with that one. -/
inductive MadeAt (before : List Mark) : Mark → List Mark → Rename → Prop where
  | shared {m source n target after} :
      MadeAt before ⟨m, .source, source⟩ (⟨n, .target, target⟩ :: after) ⟨source, target, m⟩
  | source {m source after} (hnext : ∀ x ∈ after.head?, x.side = .source) :
      MadeAt before ⟨m, .source, source⟩ after ⟨source, "", m⟩
  | target {n target after} (hlast : ∀ x ∈ before.getLast?, x.side = .target) :
      MadeAt before ⟨n, .target, target⟩ after ⟨"", target, n⟩

/-- Renames that take up each of a list of names, once and in order. -/
structure Pairs (ms : List Mark) (rs : List Rename) : Prop where
  sides : rs.flatMap Rename.sides = ms.map fun m => (m.side, m.name)
  mem_iff : ∀ r, r ∈ rs ↔ ∃ before m after, ms = before ++ m :: after ∧ MadeAt before m after r
  ascending : rs.Pairwise (·.line < ·.line)

/-! ## Names between names -/

section

variable {before after : List Mark} {m x : Mark} {r : Rename}

theorem MadeAt.tail (h : MadeAt (x :: before) m after r) : MadeAt before m after r := by
  cases h with
  | shared => exact .shared
  | source hnext => exact .source hnext
  | target hlast =>
      cases before with
      | nil => exact .target (by simp)
      | cons y before => exact .target (by simpa only [List.getLast?_cons_cons] using hlast)

/-- A name further ahead matters only to a new one right after it. -/
theorem MadeAt.cons (h : MadeAt before m after r)
    (hx : before = [] → m.side = .target → x.side = .target) : MadeAt (x :: before) m after r := by
  cases h with
  | shared => exact .shared
  | source hnext => exact .source hnext
  | target hlast =>
      cases before with
      | nil => exact .target (by simpa using hx rfl rfl)
      | cons y before => exact .target (by simpa only [List.getLast?_cons_cons] using hlast)

end

/-! ## Names on lines -/

section

variable {n : Nat} {l : List Char} {ls : List (Nat × List Char)} {name : String}

/-- No line has both an old name and a new one. -/
theorem target?_eq_none_of_source? (h : source? l = some name) : target? l = none := by
  rw [target?, Option.eq_none_iff_forall_ne_some]
  intro other h'
  simp only [source?, side?, bind, pure, Option.bind_eq_some_iff, Line.after?_eq_some_iff] at h h'
  obtain ⟨rest, hrest, after, hafter, -⟩ := h
  obtain ⟨rest', hrest', after', hafter', -⟩ := h'
  have heq : rest = rest' := by simpa [hrest] using hrest'
  rw [← heq, hafter] at hafter'
  simp at hafter'

theorem marks_cons_source (h : source? l = some name) :
    marks ((n, l) :: ls) = ⟨n, .source, name⟩ :: marks ls := by
  simp [marks, h, target?_eq_none_of_source? h]

theorem marks_cons_target (hs : source? l = none) (ht : target? l = some name) :
    marks ((n, l) :: ls) = ⟨n, .target, name⟩ :: marks ls := by
  simp [marks, hs, ht]

theorem marks_cons_neither (hs : source? l = none) (ht : target? l = none) :
    marks ((n, l) :: ls) = marks ls := by
  simp [marks, hs, ht]

theorem map_line_marks_sublist (ls : List (Nat × List Char)) :
    ((marks ls).map (·.line)).Sublist (ls.map (·.1)) := by
  induction ls with
  | nil => exact .slnil
  | cons x ls ih =>
      obtain ⟨n, l⟩ := x
      cases hs : source? l with
      | some name =>
          rw [marks_cons_source hs]
          exact .cons_cons n ih
      | none =>
          cases ht : target? l with
          | some name =>
              rw [marks_cons_target hs ht]
              exact .cons_cons n ih
          | none =>
              rw [marks_cons_neither hs ht]
              exact .cons n ih

theorem name_ne_empty_of_mem_marks
    (h : ∀ x ∈ ls, source? x.2 ≠ some "" ∧ target? x.2 ≠ some "") :
    ∀ m ∈ marks ls, m.name ≠ "" := by
  intro m hm hempty
  obtain ⟨⟨n, l⟩, hl, hm⟩ := List.mem_flatMap.mp hm
  rcases List.mem_append.mp hm with hm | hm
  · obtain ⟨name, hname, rfl⟩ := Option.map_eq_some_iff.mp (Option.mem_toList.mp hm)
    exact (h _ hl).1 (hempty ▸ hname)
  · obtain ⟨name, hname, rfl⟩ := Option.map_eq_some_iff.mp (Option.mem_toList.mp hm)
    exact (h _ hl).2 (hempty ▸ hname)

end

/-! ## Rules of pairing -/

/-- How names make up renames, from the first name on. -/
inductive Paired : List Mark → List Rename → Prop where
  | nil : Paired [] []
  | shared {m source n target ms rs} (h : Paired ms rs) :
      Paired (⟨m, .source, source⟩ :: ⟨n, .target, target⟩ :: ms) (⟨source, target, m⟩ :: rs)
  | source {m source ms rs} (hnext : ∀ x ∈ ms.head?, x.side = .source) (h : Paired ms rs) :
      Paired (⟨m, .source, source⟩ :: ms) (⟨source, "", m⟩ :: rs)
  | target {n target ms rs} (h : Paired ms rs) :
      Paired (⟨n, .target, target⟩ :: ms) (⟨"", target, n⟩ :: rs)

/-- The old name that waits ahead of lines, as one more name. -/
def waitingMarks : Option (String × Nat) → List Mark
  | none => []
  | some (source, n) => [⟨n, .source, source⟩]

/-- A name that waits makes its rename as if it stood on the line before. -/
theorem paired_pair (waiting : Option (String × Nat)) (ls : List (Nat × List Char)) :
    Paired (waitingMarks waiting ++ marks ls) (pair waiting ls) := by
  induction ls generalizing waiting with
  | nil =>
      cases waiting with
      | none => exact .nil
      | some w => exact .source (by simp [marks]) .nil
  | cons x ls ih =>
      obtain ⟨n, l⟩ := x
      cases hs : source? l with
      | some name =>
          have hnext := ih (some (name, n))
          rw [marks_cons_source hs]
          cases waiting with
          | none =>
              simp only [pair, hs]
              exact hnext
          | some w =>
              simp only [pair, hs]
              exact .source (by simp) hnext
      | none =>
          cases ht : target? l with
          | some name =>
              have hnext := ih none
              rw [marks_cons_target hs ht]
              cases waiting with
              | none =>
                  simp only [pair, hs, ht]
                  exact .target hnext
              | some w =>
                  simp only [pair, hs, ht]
                  exact .shared hnext
          | none =>
              rw [marks_cons_neither hs ht, pair_of_neither hs ht]
              exact ih waiting

theorem paired_inLines (ls : List (Nat × List Char)) : Paired (marks ls) (inLines ls) :=
  paired_pair none ls

namespace Paired

variable {ms : List Mark} {rs : List Rename}

theorem flatMap_sides (h : Paired ms rs) (hnames : ∀ m ∈ ms, m.name ≠ "") :
    rs.flatMap Rename.sides = ms.map fun m => (m.side, m.name) := by
  induction h with
  | nil => rfl
  | shared h ih =>
      simp only [List.forall_mem_cons] at hnames
      simp [Rename.sides, hnames.1, hnames.2.1, ih hnames.2.2]
  | source hnext h ih =>
      simp only [List.forall_mem_cons] at hnames
      simp [Rename.sides, hnames.1, ih hnames.2]
  | target h ih =>
      simp only [List.forall_mem_cons] at hnames
      simp [Rename.sides, hnames.1, ih hnames.2]

/-- A rename stands on the line of its first name. -/
theorem map_line_sublist (h : Paired ms rs) : (rs.map (·.line)).Sublist (ms.map (·.line)) := by
  induction h with
  | nil => exact .slnil
  | shared h ih => exact .cons_cons _ (.cons _ ih)
  | source hnext h ih => exact .cons_cons _ ih
  | target h ih => exact .cons_cons _ ih

theorem exists_madeAt (h : Paired ms rs) {r : Rename} (hr : r ∈ rs) :
    ∃ before m after, ms = before ++ m :: after ∧ MadeAt before m after r := by
  induction h with
  | nil => cases hr
  | shared h ih =>
      rcases List.mem_cons.mp hr with rfl | hr
      · exact ⟨[], _, _, rfl, .shared⟩
      · obtain ⟨before, x, after, rfl, hx⟩ := ih hr
        refine ⟨_ :: _ :: before, x, after, rfl, (hx.cons ?_).cons ?_⟩
        · exact fun _ _ => rfl
        · exact fun hnil => absurd hnil (List.cons_ne_nil _ before)
  | source hnext h ih =>
      rcases List.mem_cons.mp hr with rfl | hr
      · exact ⟨[], _, _, rfl, .source hnext⟩
      · obtain ⟨before, x, after, rfl, hx⟩ := ih hr
        refine ⟨_ :: before, x, after, rfl, hx.cons ?_⟩
        rintro rfl htarget
        exact (hnext x rfl).symm.trans htarget
  | target h ih =>
      rcases List.mem_cons.mp hr with rfl | hr
      · exact ⟨[], _, _, rfl, .target (by simp)⟩
      · obtain ⟨before, x, after, rfl, hx⟩ := ih hr
        exact ⟨_ :: before, x, after, rfl, hx.cons fun _ _ => rfl⟩

theorem mem_of_madeAt (h : Paired ms rs) {before after : List Mark} {x : Mark} {r : Rename}
    (hms : ms = before ++ x :: after) (hx : MadeAt before x after r) : r ∈ rs := by
  induction h generalizing before with
  | nil => simp at hms
  | shared h ih =>
      -- The second of the two names comes right after the first, so that it makes no rename.
      match before with
      | [] =>
          obtain ⟨rfl, rfl⟩ := List.cons.inj hms
          cases hx with
          | shared => exact List.mem_cons_self
          | source hnext => cases hnext _ rfl
      | [y] =>
          obtain ⟨rfl, hrest⟩ := List.cons.inj hms
          obtain ⟨rfl, -⟩ := List.cons.inj hrest
          cases hx with
          | target hlast => cases hlast _ rfl
      | y :: z :: before =>
          have hrest := (List.cons.inj (List.cons.inj hms).2).2
          exact List.mem_cons_of_mem _ (ih hrest hx.tail.tail)
  | source hnext h ih =>
      cases before with
      | nil =>
          obtain ⟨rfl, rfl⟩ := List.cons.inj hms
          cases hx with
          | shared => cases hnext _ rfl
          | source => exact List.mem_cons_self
      | cons y before => exact List.mem_cons_of_mem _ (ih (List.cons.inj hms).2 hx.tail)
  | target h ih =>
      cases before with
      | nil =>
          obtain ⟨rfl, rfl⟩ := List.cons.inj hms
          cases hx with
          | target => exact List.mem_cons_self
      | cons y before => exact List.mem_cons_of_mem _ (ih (List.cons.inj hms).2 hx.tail)

end Paired

/-! ## Renames on lines -/

/-- On lines with ascending numbers, where no name is empty, the renames take up each name once and
in order. Each of them stands on the line of its old name, or on that of its new name if it has no
old one. -/
theorem pairs_inLines {ls : List (Nat × List Char)} (hlines : ls.Pairwise fun x y => x.1 < y.1)
    (hnames : ∀ x ∈ ls, source? x.2 ≠ some "" ∧ target? x.2 ≠ some "") :
    Pairs (marks ls) (inLines ls) where
  sides := (paired_inLines ls).flatMap_sides (name_ne_empty_of_mem_marks hnames)
  mem_iff r := by
    constructor
    · exact (paired_inLines ls).exists_madeAt
    · rintro ⟨before, m, after, hms, hm⟩
      exact (paired_inLines ls).mem_of_madeAt hms hm
  ascending := by
    have hsublist : ((inLines ls).map (·.line)).Sublist (ls.map (·.1)) :=
      (paired_inLines ls).map_line_sublist.trans (map_line_marks_sublist ls)
    have hascending := (List.pairwise_map.mpr hlines).sublist hsublist
    exact List.pairwise_map.mp hascending

/-- Of five names two make one rename, with a line of another kind between them. -/
theorem pairs_inLines_of_five_names :
    let ls := [(3, "- FROM: A".toList), (4, "- FROM: ### Requirement: B".toList),
      (5, "a note".toList), (6, "- TO: `### Requirement: C`".toList), (7, "- TO: D".toList),
      (9, "- FROM: E".toList)]
    (ls.Pairwise fun x y => x.1 < y.1) ∧
      (∀ x ∈ ls, source? x.2 ≠ some "" ∧ target? x.2 ≠ some "") ∧
      Pairs (marks ls) (inLines ls) ∧
      inLines ls = [⟨"A", "", 3⟩, ⟨"B", "C", 4⟩, ⟨"", "D", 7⟩, ⟨"E", "", 9⟩] := by
  intro ls
  have hlines : ls.Pairwise fun x y => x.1 < y.1 := by decide
  have hnames : ∀ x ∈ ls, source? x.2 ≠ some "" ∧ target? x.2 ≠ some "" := by decide +kernel
  exact ⟨hlines, hnames, pairs_inLines hlines hnames, by decide +kernel⟩

end SpecReview.Rename
