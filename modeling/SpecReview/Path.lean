/-! Paths as they are written, and what two spellings of one path have in common. Splitting a
text at its slashes and joining the pieces undo each other. -/

namespace SpecReview

/-- A path as it is written, with `/` between its segments. -/
structure Path where
  text : String
  deriving DecidableEq

namespace Path

/-- How many bytes a path may have if it is to lead anywhere. -/
def limit : Nat := 4095

def withinLimit (p : Path) : Bool :=
  p.text.utf8ByteSize ≤ limit

/-- The pieces of a text between slashes. -/
def split : List Char → List (List Char)
  | [] => [[]]
  | c :: cs =>
    if c = '/' then [] :: split cs
    else
      match split cs with
      | [] => [[c]]
      | s :: ss => (c :: s) :: ss

/-- Segments with a slash between each two. -/
def joinSlash : List (List Char) → List Char
  | [] => []
  | [s] => s
  | s :: t :: ss => s ++ '/' :: joinSlash (t :: ss)

/-- The pieces of a path between its slashes. That of the empty path is empty, and an absolute
path has an empty first one. -/
def segments (p : Path) : List (List Char) :=
  split p.text.toList

def ofSegments (ss : List (List Char)) : Path :=
  ⟨String.ofList (joinSlash ss)⟩

def isAbsolute (p : Path) : Bool :=
  p.text.toList.head? = some '/'

/-- Whether a segment after the first says nothing: it is empty or a dot. -/
def idle (s : List Char) : Bool :=
  s = [] || s = ['.']

/-- What a path says: whether it is absolute, and its segments without those that say nothing. A
dot counts where a relative path starts with it. -/
def components (p : Path) : Bool × List (List Char) :=
  match p.segments with
  | [] => (false, [])
  | s :: ss => (p.isAbsolute, (if s = [] then [] else [s]) ++ ss.filter (!idle ·))

/-- Whether two paths differ in spelling only. -/
def same (p q : Path) : Bool :=
  p.components = q.components

/-- The path that leads on from `p` along `q`. An absolute `q` stands for itself. -/
def join (p : Path) (q : String) : Path :=
  if isAbsolute ⟨q⟩ then ⟨q⟩
  else if p.text.isEmpty || p.text.toList.getLast? = some '/' then ⟨p.text ++ q⟩
  else ⟨p.text ++ "/" ++ q⟩

/-- Reversed segments without the last ones that say nothing; the first segment stays. -/
def dropIdle : List (List Char) → List (List Char)
  | [] => []
  | [s] => [s]
  | s :: t :: ss => if idle s then dropIdle (t :: ss) else s :: t :: ss

/-- A path without its last component, as far as the spelling goes. The empty path and the root
have no component to lose. -/
def parent? (p : Path) : Option Path :=
  match dropIdle p.segments.reverse with
  | [] => none
  | [s] => if s = [] then none else some ⟨""⟩
  | _ :: s :: ss =>
    match (dropIdle (s :: ss)).reverse with
    | [[]] => some ⟨"/"⟩
    | ts => some (ofSegments ts)

@[simp]
theorem withinLimit_iff {p : Path} : p.withinLimit = true ↔ p.text.utf8ByteSize ≤ limit := by
  simp [withinLimit]

theorem split_ne_nil (cs : List Char) : split cs ≠ [] := by
  fun_cases split cs <;> simp

theorem joinSlash_cons_cons (c : Char) (s : List Char) (ss : List (List Char)) :
    joinSlash ((c :: s) :: ss) = c :: joinSlash (s :: ss) := by
  cases ss <;> rfl

/-- The pieces between slashes make up the text. -/
theorem joinSlash_split (cs : List Char) : joinSlash (split cs) = cs := by
  fun_induction split cs with
  | case1 => rfl
  | case2 cs ih =>
      obtain ⟨s, ss, h⟩ := List.exists_cons_of_ne_nil (split_ne_nil cs)
      rw [h] at ih ⊢
      simp [joinSlash, ih]
  | case3 c cs hc heq ih => exact absurd heq (split_ne_nil cs)
  | case4 c cs hc s ss heq ih => rw [joinSlash_cons_cons, ← heq, ih]

/-- No piece holds a slash. -/
theorem slash_notMem_of_mem_split {cs s : List Char} (h : s ∈ split cs) : '/' ∉ s := by
  fun_induction split cs generalizing s with
  | case1 => simp_all
  | case2 cs ih =>
      rcases List.mem_cons.mp h with rfl | h
      · simp
      · exact ih h
  | case3 c cs hc heq ih => exact absurd heq (split_ne_nil cs)
  | case4 c cs hc t ss heq ih =>
      rcases List.mem_cons.mp h with rfl | h
      · rw [List.mem_cons, not_or]
        exact ⟨fun he => hc he.symm, ih (by simp [heq])⟩
      · exact ih (by simp [heq, h])

theorem split_of_slash_notMem {s : List Char} (h : '/' ∉ s) : split s = [s] := by
  induction s with
  | nil => rfl
  | cons c s ih =>
      rw [List.mem_cons, not_or] at h
      simp [split, Ne.symm h.1, ih h.2]

/-- What stands before a slash is a piece. -/
theorem split_append_slash {s : List Char} (h : '/' ∉ s) (cs : List Char) :
    split (s ++ '/' :: cs) = s :: split cs := by
  induction s with
  | nil => simp [split]
  | cons c s ih =>
      rw [List.mem_cons, not_or] at h
      simp [split, Ne.symm h.1, ih h.2]

/-- Pieces without slashes are found again in their text. -/
theorem split_joinSlash {ss : List (List Char)} (hs : ss ≠ []) (hn : ∀ s ∈ ss, '/' ∉ s) :
    split (joinSlash ss) = ss := by
  induction ss with
  | nil => exact absurd rfl hs
  | cons s ss ih =>
      cases ss with
      | nil => exact split_of_slash_notMem (hn s (by simp))
      | cons t ss =>
          rw [joinSlash, split_append_slash (hn s (by simp)),
            ih (by simp) (fun u hu => hn u (List.mem_cons_of_mem _ hu))]

end Path

end SpecReview
