import SpecReview.Path

/-! # The components of joined paths

A path that leads on by a plain name says what the path says, and then the name. -/

namespace SpecReview.Path

/-- A name that leads from a folder to one of its entries. -/
structure PlainName (name : String) : Prop where
  ne_empty : name.toList ≠ []
  no_slash : '/' ∉ name.toList
  ne_dot : name.toList ≠ ['.']
  ne_dots : name.toList ≠ ['.', '.']

theorem plainName_iff {name : String} :
    PlainName name ↔ name.toList ≠ [] ∧ '/' ∉ name.toList ∧ name.toList ≠ ['.'] ∧
      name.toList ≠ ['.', '.'] :=
  ⟨fun h => ⟨h.ne_empty, h.no_slash, h.ne_dot, h.ne_dots⟩,
    fun ⟨hempty, hslash, hdot, hdots⟩ => ⟨hempty, hslash, hdot, hdots⟩⟩

instance : DecidablePred PlainName := fun _ => decidable_of_iff _ plainName_iff.symm

variable {name : String}

theorem PlainName.idle_eq_false (h : PlainName name) : idle name.toList = false := by
  simp [idle, h.ne_empty, h.ne_dot]

theorem PlainName.isAbsolute_eq_false (h : PlainName name) : isAbsolute ⟨name⟩ = false := by
  unfold isAbsolute
  cases hcs : name.toList with
  | nil => rfl
  | cons c cs =>
      have hne : c ≠ '/' := by
        rintro rfl
        exact h.no_slash (by simp [hcs])
      simpa using hne

/-! ## Splitting at a slash -/

/-- A slash splits a text into the pieces before it and those after it. -/
theorem split_append (cs ds : List Char) : split (cs ++ '/' :: ds) = split cs ++ split ds := by
  induction cs with
  | nil => simp [split]
  | cons c cs ih =>
      rw [List.cons_append, split, split]
      by_cases hc : c = '/'
      · simp [hc, ih]
      · obtain ⟨s, ss, hs⟩ := List.exists_cons_of_ne_nil (split_ne_nil cs)
        simp [hc, ih, hs]

/-! ## Joining -/

theorem join_text_ne {p : Path} (h : p.text ≠ "") (q : String) : (p.join q).text ≠ "" := by
  unfold join
  split
  · rename_i hq
    intro hempty
    rw [isAbsolute, hempty] at hq
    simp at hq
  · split <;> simp [h]

theorem withinLimit_eq_false_iff {p : Path} :
    p.withinLimit = false ↔ limit < p.text.utf8ByteSize := by
  rw [← Bool.not_eq_true, withinLimit_iff, Nat.not_le]

theorem utf8ByteSize_le_join (p : Path) {q : String} (hq : isAbsolute ⟨q⟩ = false) :
    p.text.utf8ByteSize + q.utf8ByteSize ≤ (p.join q).text.utf8ByteSize := by
  rw [join, hq, if_neg Bool.false_ne_true]
  split
  · exact Nat.le_of_eq String.utf8ByteSize_append.symm
  · rw [String.utf8ByteSize_append, String.utf8ByteSize_append]
    omega

/-! ## Joining with a plain name -/

theorem components_of_segments {p : Path} {s : List Char} {ss : List (List Char)}
    (h : p.segments = s :: ss) :
    p.components = (p.isAbsolute, (if s = [] then [] else [s]) ++ ss.filter (!idle ·)) := by
  rw [components, h]

/-- A name that follows a slash is one component more than what is before the slash. -/
theorem components_append_slash {p q : Path} {cs ds : List Char} (h : PlainName name)
    (hp : p.text.toList = cs ++ ds) (hds : ds = [] ∧ cs ≠ [] ∨ ds = ['/'])
    (hq : q.text.toList = cs ++ '/' :: name.toList) :
    q.components = (p.components.1, p.components.2 ++ [name.toList]) := by
  obtain ⟨s, ss, hs⟩ := List.exists_cons_of_ne_nil (split_ne_nil cs)
  have hqs : q.segments = s :: (ss ++ [name.toList]) := by
    rw [segments, hq, split_append, split_of_slash_notMem h.no_slash, hs, List.cons_append]
  have hps : ∃ bs, p.segments = s :: (ss ++ bs) ∧ bs.filter (!idle ·) = [] := by
    rcases hds with ⟨rfl, -⟩ | rfl
    · exact ⟨[], by rw [segments, hp, List.append_nil, hs, List.append_nil], rfl⟩
    · exact ⟨[[]], by rw [segments, hp, split_append, hs]; rfl, rfl⟩
  have habsolute : q.isAbsolute = p.isAbsolute := by
    rw [isAbsolute, isAbsolute, hq, hp]
    rcases hds with ⟨rfl, hcs⟩ | rfl
    · obtain ⟨c, cs, rfl⟩ := List.exists_cons_of_ne_nil hcs
      rfl
    · cases cs <;> rfl
  obtain ⟨bs, hps, hbs⟩ := hps
  rw [components_of_segments hps, components_of_segments hqs, habsolute, List.filter_append,
    List.filter_append, hbs]
  simp [h.idle_eq_false]

/-- Joining appends the name to the components. -/
theorem components_join (p : Path) (h : PlainName name) :
    (p.join name).components = (p.components.1, p.components.2 ++ [name.toList]) := by
  rw [join, h.isAbsolute_eq_false, if_neg Bool.false_ne_true]
  by_cases hempty : p.text = ""
  · have hp : p = ⟨""⟩ := congrArg Path.mk hempty
    have hjoin : (⟨p.text ++ name⟩ : Path) = ⟨name⟩ := by simp [hempty]
    have hsegments : segments ⟨name⟩ = [name.toList] := split_of_slash_notMem h.no_slash
    have hcomponents : components ⟨""⟩ = (false, []) := by decide
    rw [if_pos (by simp [hempty]), hjoin, hp, hcomponents, components_of_segments hsegments,
      h.isAbsolute_eq_false, if_neg h.ne_empty]
    rfl
  · by_cases hslash : p.text.toList.getLast? = some '/'
    · obtain ⟨cs, hcs⟩ := List.getLast?_eq_some_iff.mp hslash
      rw [if_pos (by simp [hslash])]
      exact components_append_slash h hcs (Or.inr rfl) (by simp [hcs])
    · rw [if_neg (by simp [hempty, hslash])]
      refine components_append_slash h (List.append_nil _).symm (Or.inl ⟨rfl, ?_⟩) (by simp)
      simpa using hempty

theorem components_foldl_join (p : Path) {names : List String} (h : ∀ n ∈ names, PlainName n) :
    (names.foldl join p).components =
      (p.components.1, p.components.2 ++ names.map String.toList) := by
  induction names generalizing p with
  | nil => simp
  | cons n names ih =>
      rw [List.foldl_cons, ih _ fun m hm => h m (List.mem_cons_of_mem n hm),
        components_join p (h n (by simp))]
      simp

end SpecReview.Path
