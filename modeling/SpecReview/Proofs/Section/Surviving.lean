import SpecReview.Delta
import SpecReview.Proofs.Block
import SpecReview.Proofs.Line.Kind

/-! # The sections that count

Of the sections written under one name the last counts, and it takes its own place in the order.
Whoever looks for a section by its heading therefore finds the last one that is written. -/

namespace SpecReview

namespace Section

/-- The sections of a text as they are written, with those that a later one replaces. -/
def written (text : String) : List Section :=
  (Block.all opening? (fun _ => false) 1 (Text.lines text.toList)).map ofBlock

/-- The last section that is written under a name. -/
def lastNamed? (name text : String) : Option Section :=
  (written text).reverse.find? (·.name = name)

/-- The lines ahead of the first section. -/
def preamble (text : String) : List (List Char) :=
  (Text.lines text.toList).takeWhile (opening? · = none)

theorem map_name_written (text : String) :
    (written text).map (·.name) = (Text.lines text.toList).filterMap opening? := by
  rw [written, List.map_map, ← Block.map_head_cut opening? (fun _ => false) 1]
  rfl

/-- The sections of lines that were put together: heading by heading, the lines below it. -/
theorem map_written {β : Type} {text : String} {ahead : List (List Char)}
    {line : β → List Char} {name : β → String} {body : β → List (List Char)} {gs : List β}
    (hlines : Text.lines text.toList = ahead ++ gs.flatMap fun g => line g :: body g)
    (hahead : ∀ l ∈ ahead, opening? l = none)
    (hopen : ∀ g ∈ gs, opening? (line g) = some (name g))
    (hbody : ∀ g ∈ gs, ∀ l ∈ body g, opening? l = none) :
    (written text).map (fun s => (s.name, s.lines)) = gs.map fun g => (name g, body g) := by
  have hblocks : List.Forall₂ (fun g b => b.head = name g ∧ b.body = body g) gs
      (Block.all opening? (fun _ => false) 1 (Text.lines text.toList)) := by
    rw [hlines, Block.all, Block.cut_append fun l hl => ⟨hahead l hl, rfl⟩]
    exact Block.forall₂_all_flatMap hopen (fun g hg l hl => ⟨hbody g hg l hl, rfl⟩) _
  refine Eq.mp (congrFun (congrFun List.forall₂_eq_eq_eq _) _) ?_
  rw [written, List.map_map, List.forall₂_map_left_iff, List.forall₂_map_right_iff]
  refine hblocks.flip.imp ?_
  rintro b g ⟨hhead, hlines⟩
  exact Prod.ext hhead hlines

/-- Sections with different names all count. -/
theorem latest_eq_self {ss : List Section} (h : (ss.map (·.name)).Nodup) : latest ss = ss := by
  induction ss with
  | nil => rfl
  | cons s ss ih =>
      obtain ⟨hs, hss⟩ := List.nodup_cons.mp h
      have hany : ss.any (·.name = s.name) = false := by
        rw [List.any_eq_false]
        intro t ht he
        exact hs (List.mem_map.mpr ⟨t, ht, by simpa using he⟩)
      rw [latest, hany, ih hss]
      rfl

theorem find?_reverse_cons (p : Section → Bool) (s : Section) (ss : List Section) :
    (s :: ss).reverse.find? p = (ss.reverse.find? p).or (if p s then some s else none) := by
  rw [List.reverse_cons, List.find?_append]
  cases h : p s <;> simp [h]

/-- A section that a later one replaces is not found from the end by its name. -/
theorem find?_reverse_cons_of_replaced (p : String → Bool) {s : Section} {ss : List Section}
    (h : ss.any (·.name = s.name) = true) :
    (s :: ss).reverse.find? (p ·.name) = ss.reverse.find? (p ·.name) := by
  obtain ⟨t, ht, hname⟩ := List.any_eq_true.mp h
  rw [find?_reverse_cons]
  by_cases hp : p s.name
  · have hfound : (ss.reverse.find? (p ·.name)).isSome = true := by
      rw [List.find?_isSome]
      exact ⟨t, List.mem_reverse.mpr ht, by rwa [of_decide_eq_true hname]⟩
    rw [Option.or_of_isSome hfound]
  · rw [if_neg hp, Option.or_none]

/-- What is looked for from the end by the name alone is found whether or not the replaced
sections are still there. -/
theorem find?_reverse_latest (p : String → Bool) (ss : List Section) :
    (latest ss).reverse.find? (p ·.name) = ss.reverse.find? (p ·.name) := by
  induction ss with
  | nil => rfl
  | cons s ss ih =>
      rw [latest]
      by_cases h : ss.any (·.name = s.name)
      · rw [if_pos h, ih, find?_reverse_cons_of_replaced p h]
      · rw [if_neg h, find?_reverse_cons, find?_reverse_cons, ih]

theorem find?_latest (name : String) (ss : List Section) :
    find? name (latest ss) = ss.reverse.find? (·.name = name) := by
  induction ss with
  | nil => rfl
  | cons s ss ih =>
      rw [latest]
      by_cases h : ss.any (·.name = s.name)
      · rw [if_pos h, ih]
        exact (find?_reverse_cons_of_replaced (fun n => decide (n = name)) h).symm
      · rw [if_neg h, find?_reverse_cons, ← ih]
        by_cases hs : s.name = name
        · have hnone : find? name (latest ss) = none := by
            rw [ih, List.find?_eq_none]
            intro t ht hname
            exact h (List.any_eq_true.mpr ⟨t, List.mem_reverse.mp ht, by rwa [hs]⟩)
          rw [hnone]
          simp [find?, hs]
        · simp [find?, hs]

/-- Looking up a name finds the last section that is written under it. -/
theorem find?_inText (name text : String) : find? name (inText text) = lastNamed? name text :=
  find?_latest name (written text)

end Section

namespace Delta

theorem sectionOf_inText (op : Operation) (text : String) :
    sectionOf op (Section.inText text) = sectionOf op (Section.written text) :=
  Section.find?_reverse_latest (fun name => Operation.ofHeading? name = some op) _

/-- The section of an operation goes by names alone. -/
theorem map_sectionOf {β : Type} {name : β → String} {body : β → List (List Char)}
    {ss : List Section} {gs : List β}
    (h : ss.map (fun s => (s.name, s.lines)) = gs.map fun g => (name g, body g)) (op : Operation) :
    (sectionOf op ss).map (fun s => (s.name, s.lines)) =
      (gs.reverse.find? fun g => Operation.ofHeading? (name g) = some op).map fun g =>
        (name g, body g) := by
  have hname : (fun s : Section => decide (Operation.ofHeading? s.name = some op)) =
      (fun x : String × List (List Char) => decide (Operation.ofHeading? x.1 = some op)) ∘
        fun s => (s.name, s.lines) := rfl
  have hpart : (fun g : β => decide (Operation.ofHeading? (name g) = some op)) =
      (fun x : String × List (List Char) => decide (Operation.ofHeading? x.1 = some op)) ∘
        fun g => (name g, body g) := rfl
  rw [sectionOf, hname, hpart, ← List.find?_map, ← List.find?_map, List.map_reverse,
    List.map_reverse, h]

end Delta

end SpecReview
