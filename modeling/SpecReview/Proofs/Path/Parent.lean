import SpecReview.Proofs.Path.Components

/-! # Parents by spelling

To take the parent of a path is to take off its last component, whatever that component is. -/

namespace SpecReview.Path

/-! ## Segments that say nothing -/

theorem dropIdle_ne_nil {ss : List (List Char)} (h : ss ≠ []) : dropIdle ss ≠ [] := by
  fun_induction dropIdle ss with
  | case1 => exact absurd rfl h
  | case2 s => simp
  | case3 s t ss hs ih => exact ih (by simp)
  | case4 s t ss hs => simp

@[simp]
theorem dropIdle_dropIdle (ss : List (List Char)) : dropIdle (dropIdle ss) = dropIdle ss := by
  fun_induction dropIdle ss with
  | case1 => rfl
  | case2 s => rfl
  | case3 s t ss hs ih => exact ih
  | case4 s t ss hs => rw [dropIdle, if_neg hs]

theorem exists_append_dropIdle (ss : List (List Char)) :
    ∃ bs, ss = bs ++ dropIdle ss ∧ ∀ b ∈ bs, idle b = true := by
  fun_induction dropIdle ss with
  | case1 => exact ⟨[], rfl, by simp⟩
  | case2 s => exact ⟨[], rfl, by simp⟩
  | case3 s t ss hs ih =>
      obtain ⟨bs, heq, hbs⟩ := ih
      exact ⟨s :: bs, congrArg (List.cons s) heq, List.forall_mem_cons.mpr ⟨hs, hbs⟩⟩
  | case4 s t ss hs => exact ⟨[], rfl, by simp⟩

theorem idle_eq_false_of_dropIdle {ss rest : List (List Char)} {s : List Char}
    (h : dropIdle ss = s :: rest) (hrest : rest ≠ []) : idle s = false := by
  fun_induction dropIdle ss with
  | case1 => cases h
  | case2 t =>
      cases h
      exact absurd rfl hrest
  | case3 t u ss ht ih => exact ih h
  | case4 t u ss ht =>
      cases h
      simpa using ht

/-! ## The spine of a path -/

/-- The segments of a path from the last one on, without those at its end that say nothing. -/
def spine (p : Path) : List (List Char) :=
  dropIdle p.segments.reverse

theorem exists_segments_eq (p : Path) :
    ∃ bs, p.segments = p.spine.reverse ++ bs ∧ ∀ b ∈ bs, idle b = true := by
  obtain ⟨bs, heq, hbs⟩ := exists_append_dropIdle p.segments.reverse
  refine ⟨bs.reverse, ?_, by simpa using hbs⟩
  rw [← List.reverse_append, ← List.reverse_eq_iff]
  exact heq

theorem slash_notMem_of_mem_spine {p : Path} {s : List Char} (h : s ∈ p.spine) : '/' ∉ s := by
  obtain ⟨bs, heq, -⟩ := exists_segments_eq p
  have hmem : s ∈ p.segments := by
    rw [heq]
    exact List.mem_append_left bs (List.mem_reverse.mpr h)
  exact slash_notMem_of_mem_split hmem

/-- The segments that are components: without those that say nothing, and the empty one that an
absolute path starts with. -/
def kept : List (List Char) → List (List Char)
  | [] => []
  | s :: ss => (if s = [] then [] else [s]) ++ ss.filter (!idle ·)

theorem components_eq (p : Path) : p.components = (p.isAbsolute, kept p.segments) := by
  have hne : p.segments ≠ [] := split_ne_nil _
  cases h : p.segments with
  | nil => exact absurd h hne
  | cons s ss => rw [components, h, kept]

theorem kept_append {ss : List (List Char)} (h : ss ≠ []) (us : List (List Char)) :
    kept (ss ++ us) = kept ss ++ us.filter (!idle ·) := by
  obtain ⟨s, ss, rfl⟩ := List.exists_cons_of_ne_nil h
  rw [List.cons_append, kept, kept, List.filter_append, List.append_assoc]

theorem kept_reverse_dropIdle (ss : List (List Char)) :
    kept (dropIdle ss).reverse = kept ss.reverse := by
  fun_induction dropIdle ss with
  | case1 => rfl
  | case2 s => rfl
  | case3 s t ss hs ih =>
      rw [List.reverse_cons (a := s), kept_append (by simp), ih]
      simp [hs]
  | case4 s t ss hs => rfl

theorem components_eq_spine (p : Path) : p.components = (p.isAbsolute, kept p.spine.reverse) := by
  rw [components_eq, spine, kept_reverse_dropIdle, List.reverse_reverse]

/-! ## Parents -/

theorem isAbsolute_iff {p : Path} :
    p.isAbsolute = true ↔ ∃ s ss, p.segments = [] :: s :: ss := by
  rw [isAbsolute, segments, decide_eq_true_iff]
  cases p.text.toList with
  | nil => simp [split]
  | cons c cs =>
      obtain ⟨s, ss, hs⟩ := List.exists_cons_of_ne_nil (split_ne_nil cs)
      by_cases hc : c = '/' <;> simp [split, hc, hs]

theorem isAbsolute_congr {p q : Path} {us : List (List Char)} (hp : p.segments = q.segments ++ us)
    (hq : q.text ≠ "") : q.isAbsolute = p.isAbsolute := by
  have htext : q.segments ≠ [[]] := by
    intro h
    have hempty := joinSlash_split q.text.toList
    rw [← segments, h] at hempty
    exact hq (String.toList_eq_nil_iff.mp hempty.symm)
  rw [Bool.eq_iff_iff, isAbsolute_iff, isAbsolute_iff, hp]
  rcases hsegments : q.segments with _ | ⟨s, _ | ⟨u, ss⟩⟩
  · exact absurd hsegments (split_ne_nil _)
  · have hs : s ≠ [] := by
      rintro rfl
      exact htext hsegments
    simp [hs]
  · simp

/-- The parent of a path has the spine of the path but for its first segment, and is spelled with
no more than slashes after its own. -/
theorem of_parent? {p q : Path} (h : p.parent? = some q) :
    (∃ s, s ≠ [] ∧ p.spine = [s] ∧ q = ⟨""⟩) ∨
      ∃ s rest, rest ≠ [] ∧ p.spine = s :: rest ∧ q.spine = dropIdle rest ∧
        q.isAbsolute = p.isAbsolute ∧ q.text ≠ "" ∧
          ∃ n, q.segments = q.spine.reverse ++ List.replicate n [] := by
  obtain ⟨bs, hsegments, -⟩ := exists_segments_eq p
  rw [parent?, ← spine] at h
  split at h
  · cases h
  · rename_i s hspine
    by_cases hs : s = []
    · simp [hs] at h
    · rw [if_neg hs, Option.some.injEq] at h
      exact Or.inl ⟨s, hs, hspine, h.symm⟩
  · rename_i s u ss hspine
    refine Or.inr ⟨s, u :: ss, by simp, hspine, ?_⟩
    obtain ⟨us, hus, -⟩ := exists_append_dropIdle (u :: ss)
    have hparent : p.segments = (dropIdle (u :: ss)).reverse ++ (us.reverse ++ s :: bs) := by
      have hrest : (u :: ss).reverse = (dropIdle (u :: ss)).reverse ++ us.reverse := by
        rw [← List.reverse_append, ← hus]
      rw [hsegments, hspine, List.reverse_cons, hrest]
      simp
    split at h
    · rename_i hroot
      have hq : q = ⟨"/"⟩ := (Option.some.inj h).symm
      have habsolute : p.isAbsolute = true := by
        rw [isAbsolute_iff, hparent, hroot]
        cases us.reverse <;> simp
      rw [hq, habsolute]
      refine ⟨?_, by decide, by decide, 1, by decide⟩
      rw [← List.reverse_reverse (dropIdle (u :: ss)), hroot]
      decide
    · rename_i ts hts
      have hq : q = ofSegments (dropIdle (u :: ss)).reverse := (Option.some.inj h).symm
      have hslash : ∀ v ∈ (dropIdle (u :: ss)).reverse, '/' ∉ v := by
        intro v hv
        apply slash_notMem_of_mem_spine (p := p)
        rw [hspine, hus]
        exact List.mem_cons_of_mem s (List.mem_append_right us (List.mem_reverse.mp hv))
      have hsplit : q.segments = (dropIdle (u :: ss)).reverse := by
        rw [hq, segments, ofSegments, String.toList_ofList]
        exact split_joinSlash (by simpa using dropIdle_ne_nil (List.cons_ne_nil u ss)) hslash
      have htext : q.text ≠ "" := by
        intro hempty
        rw [segments, hempty] at hsplit
        exact hts hsplit.symm
      have hspine : q.spine = dropIdle (u :: ss) := by
        rw [spine, hsplit, List.reverse_reverse, dropIdle_dropIdle]
      exact ⟨hspine, isAbsolute_congr (hsplit ▸ hparent) htext, htext, 0, by
        rw [hsplit, hspine, List.replicate_zero, List.append_nil]⟩

theorem components_snd_of_parent?_eq_none {p : Path} (h : p.parent? = none) :
    p.components.2 = [] := by
  rw [parent?, ← spine] at h
  rw [components_eq_spine]
  split at h
  · rename_i hspine
    rw [hspine]
    rfl
  · rename_i s hspine
    by_cases hs : s = []
    · rw [hspine, hs]
      rfl
    · simp [hs] at h
  · split at h <;> cases h

theorem components_snd_ne_nil {p : Path} (htext : p.text ≠ "") (h : p.isAbsolute = false) :
    p.components.2 ≠ [] := by
  rw [components_eq]
  rcases hsegments : p.segments with _ | ⟨s, ss⟩
  · exact absurd hsegments (split_ne_nil _)
  · have hs : s ≠ [] := by
      rintro rfl
      cases ss with
      | nil =>
          have hjoin := joinSlash_split p.text.toList
          rw [← segments, hsegments] at hjoin
          exact htext (String.toList_eq_nil_iff.mp hjoin.symm)
      | cons u ss =>
          rw [isAbsolute_iff.mpr ⟨u, ss, hsegments⟩] at h
          cases h
    simp [kept, hs]

theorem components_of_spine {p q : Path} {s : List Char} {rest : List (List Char)}
    (hrest : rest ≠ []) (hp : p.spine = s :: rest) (hq : q.spine = dropIdle rest)
    (habsolute : q.isAbsolute = p.isAbsolute) :
    p.components = (q.components.1, q.components.2 ++ [s]) := by
  have hidle : idle s = false := idle_eq_false_of_dropIdle hp hrest
  rw [components_eq_spine, components_eq_spine q, hp, hq, kept_reverse_dropIdle, habsolute,
    List.reverse_cons, kept_append (by simpa using hrest)]
  simp [hidle]

/-- To take the parent of a path is to take off its last component. -/
theorem components_of_parent? {p q : Path} (h : p.parent? = some q) :
    ∃ s, p.components = (q.components.1, q.components.2 ++ [s]) := by
  rcases of_parent? h with ⟨s, hs, hspine, rfl⟩ | ⟨s, rest, hrest, hp, hq, habsolute, -⟩
  · refine ⟨s, ?_⟩
    have hrelative : p.isAbsolute = false := by
      rw [Bool.eq_false_iff, ne_eq, isAbsolute_iff]
      rintro ⟨u, ss, hsegments⟩
      obtain ⟨bs, hbs, -⟩ := exists_segments_eq p
      rw [hsegments, hspine] at hbs
      exact hs (List.cons.inj hbs).1.symm
    have hempty : components ⟨""⟩ = (false, []) := by decide
    rw [components_eq_spine, hspine, hrelative, hempty]
    simp [kept, hs]
  · exact ⟨s, components_of_spine hrest hp hq habsolute⟩

/-! ## Parents of joined paths -/

theorem parent?_congr {p q : Path} (h : p.spine = q.spine) : p.parent? = q.parent? := by
  rw [parent?, parent?, ← spine, ← spine, h]

theorem exists_spine_join {p : Path} {name : String} (hp : p.text ≠ "") (hname : PlainName name) :
    ∃ rest, rest ≠ [] ∧ (p.join name).spine = name.toList :: rest ∧ dropIdle rest = p.spine := by
  have hjoin {before : List (List Char)} (hne : before ≠ [])
      (hsegments : (p.join name).segments = before ++ [name.toList]) :
      (p.join name).spine = name.toList :: before.reverse := by
    obtain ⟨s, ss, hss⟩ := List.exists_cons_of_ne_nil (mt List.reverse_eq_nil_iff.mp hne)
    rw [spine, hsegments, List.reverse_append, hss]
    exact if_neg (by simp [hname.idle_eq_false])
  have hname' : split name.toList = [name.toList] := split_of_slash_notMem hname.no_slash
  by_cases hlast : p.text.toList.getLast? = some '/'
  · obtain ⟨before, hbefore⟩ := List.getLast?_eq_some_iff.mp hlast
    have hne : split before ≠ [] := split_ne_nil before
    refine ⟨(split before).reverse, by simpa using hne, hjoin hne ?_, ?_⟩
    · rw [segments, join, hname.isAbsolute_eq_false, if_neg Bool.false_ne_true,
        if_pos (by simp [hlast]), String.toList_append, hbefore, List.append_assoc,
        List.singleton_append, split_append, hname']
    · obtain ⟨s, ss, hss⟩ := List.exists_cons_of_ne_nil (mt List.reverse_eq_nil_iff.mp hne)
      have hempty : split [] = [[]] := rfl
      rw [spine, segments, hbefore, split_append, hempty, List.reverse_append, hss]
      rfl
  · have hne : p.segments ≠ [] := split_ne_nil _
    refine ⟨p.segments.reverse, by simpa using hne, hjoin hne ?_, rfl⟩
    rw [segments, join, hname.isAbsolute_eq_false, if_neg Bool.false_ne_true,
      if_neg (by simp [hp, hlast]), String.toList_append, String.toList_append]
    have hslash : "/".toList = ['/'] := rfl
    rw [hslash, List.append_assoc, List.singleton_append, split_append, hname', segments]

theorem isAbsolute_join {p : Path} {name : String} (hname : PlainName name) :
    (p.join name).isAbsolute = p.isAbsolute := by
  have hcomponents := congrArg Prod.fst (components_join p hname)
  rwa [components_eq, components_eq p] at hcomponents

/-- The parent of a path with a name joined to it is the path, up to spelling. -/
theorem exists_parent?_join {p : Path} {name : String} (hp : p.text ≠ "")
    (hname : PlainName name) :
    ∃ q, (p.join name).parent? = some q ∧ q.text ≠ "" ∧ q.spine = p.spine ∧
      q.isAbsolute = p.isAbsolute ∧ ∃ n, q.segments = q.spine.reverse ++ List.replicate n [] := by
  obtain ⟨rest, hrest, hspine, hp⟩ := exists_spine_join hp hname
  cases hparent : (p.join name).parent? with
  | none =>
      obtain ⟨s, ss, rfl⟩ := List.exists_cons_of_ne_nil hrest
      rw [parent?, ← spine, hspine] at hparent
      dsimp only at hparent
      split at hparent <;> cases hparent
  | some q =>
      rcases of_parent? hparent with ⟨s, -, hs, -⟩ | ⟨s, rest', -, hs, hq, habsolute, htext, hn⟩
      · rw [hspine] at hs
        exact absurd (List.cons.inj hs).2 hrest
      · rw [hspine] at hs
        obtain ⟨-, rfl⟩ := List.cons.inj hs
        exact ⟨q, rfl, htext, hq.trans hp, habsolute.trans (isAbsolute_join hname), hn⟩

end SpecReview.Path
