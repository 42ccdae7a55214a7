import Mathlib.Data.List.Nodup
import SpecReview.Proofs.Requirement.Position
import SpecReview.Proofs.Section.Surviving

/-! # The sections of a text by its headings

A section heading is a line of two hashes, a blank and a name. The headings of a text say which
sections it has: one for each name, at the last heading of that name, with the lines down to the
next heading of any name. -/

namespace SpecReview.Section

open Text

/-- A line `## <name>`: two hashes, a blank, and the name among further blanks. -/
def HeadedBy (name : String) (l : List Char) : Prop :=
  ∃ c rest, l = '#' :: '#' :: c :: rest ∧ isBlank c = true ∧ trim rest = name.toList ∧ name ≠ ""

/-- The lines strictly between the line of this number and the next section heading or the end. -/
def Below (text : String) (n : Nat) (ls : List (List Char)) : Prop :=
  ∃ rest, (Text.lines text.toList).drop n = ls ++ rest ∧ (∀ l ∈ ls, ∀ name, ¬ HeadedBy name l) ∧
    ∀ l ∈ rest.head?, ∃ name, HeadedBy name l

/-! ## Headings -/

theorem named?_eq_some_iff {cs : List Char} {name : String} :
    Line.named? cs = some name ↔ trim cs = name.toList ∧ name ≠ "" := by
  have hempty : name ≠ "" ↔ name.toList ≠ [] := not_congr String.toList_eq_nil_iff.symm
  rw [Line.named?, hempty]
  cases trim cs with
  | nil =>
      simp only [reduceCtorEq, false_iff, not_and, not_not]
      exact Eq.symm
  | cons d ds =>
      rw [Option.some.injEq]
      constructor
      · rintro rfl
        simp
      · rintro ⟨hname, -⟩
        rw [hname, String.ofList_toList]

theorem sectionName?_eq_some_iff {l : List Char} {name : String} :
    Line.sectionName? l = some name ↔ HeadedBy name l := by
  have hmarked (c : Char) (rest : List Char) : Line.marked? 2 "" ('#' :: '#' :: c :: rest) =
      if isBlank c then some (trimStart rest) else none := by
    cases hc : isBlank c <;> simp [Line.marked?, Line.after?, Line.afterBlanks?, hc]
  have htrim (rest : List Char) : trim (trimStart rest) = trim rest := by
    rw [trim, trim, trimStart_trimStart]
  constructor
  · intro h
    obtain ⟨rest, hrest, hname⟩ := Option.bind_eq_some_iff.mp h
    obtain ⟨c, gap, hc, -, rfl, -⟩ := Line.marked?_eq_some_iff.mp hrest
    have hl : List.replicate 2 '#' ++ (c :: gap ++ ("".toList ++ rest)) =
        '#' :: '#' :: c :: (gap ++ rest) := rfl
    rw [hl, hmarked, if_pos hc, Option.some.injEq] at hrest
    rw [named?_eq_some_iff, ← hrest, htrim] at hname
    exact ⟨c, gap ++ rest, hl, hc, hname⟩
  · rintro ⟨c, rest, rfl, hc, hname⟩
    rw [Line.sectionName?, hmarked, if_pos hc, Option.bind_some, named?_eq_some_iff, htrim]
    exact hname

theorem opening?_eq_some_iff {l : List Char} {name : String} :
    opening? l = some name ↔ HeadedBy name l := by
  rw [opening?_eq, sectionName?_eq_some_iff]

theorem opening?_eq_none_iff {l : List Char} :
    opening? l = none ↔ ∀ name, ¬ HeadedBy name l := by
  simp only [Option.eq_none_iff_forall_ne_some, ne_eq, opening?_eq_some_iff]

/-! ## Sections as they are written -/

variable {text name : String} {s : Section} {n : Nat} {l : List Char}

theorem line_name_mem_written_iff :
    (n, name) ∈ (written text).map (fun s => (s.line, s.name)) ↔
      ∃ l, LineAt text n l ∧ HeadedBy name l := by
  have hheadings : (written text).map (fun s => (s.line, s.name)) =
      (numberFrom 1 (Text.lines text.toList)).filterMap fun x => (opening? x.2).map (x.1, ·) := by
    rw [written, List.map_map, ← Block.map_line_head_cut opening? (fun _ => false)]
    rfl
  rw [hheadings, List.mem_filterMap]
  constructor
  · rintro ⟨⟨k, l⟩, hl, heq⟩
    obtain ⟨other, hother, heq⟩ := Option.map_eq_some_iff.mp heq
    obtain ⟨rfl, rfl⟩ := Prod.mk.inj heq
    exact ⟨l, hl, opening?_eq_some_iff.mp hother⟩
  · rintro ⟨l, hl, hhead⟩
    exact ⟨(n, l), hl, by rw [opening?_eq_some_iff.mpr hhead, Option.map_some]⟩

theorem exists_heading_of_mem_written (h : s ∈ written text) :
    ∃ l, LineAt text s.line l ∧ HeadedBy s.name l :=
  line_name_mem_written_iff.mp (List.mem_map_of_mem (f := fun s => (s.line, s.name)) h)

theorem exists_mem_written (hl : LineAt text n l) (hhead : HeadedBy name l) :
    ∃ s ∈ written text, s.line = n ∧ s.name = name := by
  obtain ⟨s, hs, heq⟩ := List.mem_map.mp (line_name_mem_written_iff.mpr ⟨l, hl, hhead⟩)
  exact ⟨s, hs, Prod.mk.inj heq⟩

theorem pairwise_line_written (text : String) :
    (written text).Pairwise fun s u => s.line < u.line :=
  List.pairwise_map.mpr (Block.pairwise_line opening? (fun _ => false) 1 _)

theorem below_of_mem_written (h : s ∈ written text) : Below text s.line s.lines := by
  obtain ⟨b, hb, rfl⟩ := List.mem_map.mp h
  have hcontinues (l : List Char) :
      Block.continues opening? (fun _ => false) l = true ↔ ∀ name, ¬ HeadedBy name l := by
    rw [← opening?_eq_none_iff]
    simp [Block.continues]
  have hbody : b.body = ((Text.lines text.toList).drop b.line).takeWhile
      (Block.continues opening? fun _ => false) := (Block.body_eq_takeWhile hb).2
  refine ⟨((Text.lines text.toList).drop b.line).dropWhile
    (Block.continues opening? fun _ => false), ?_, ?_, ?_⟩
  · change (Text.lines text.toList).drop b.line = b.body ++ _
    rw [hbody, List.takeWhile_append_dropWhile]
  · intro l (hl : l ∈ b.body)
    rw [← hcontinues]
    rw [hbody] at hl
    exact List.mem_takeWhile_imp hl
  · intro l hl
    have hstops := List.head?_dropWhile_not (Block.continues opening? fun _ => false)
      ((Text.lines text.toList).drop b.line)
    rw [Option.mem_def.mp hl] at hstops
    by_contra hnone
    rw [not_exists, ← hcontinues, hstops] at hnone
    exact Bool.false_ne_true hnone

/-! ## Sections that count -/

theorem latest_sublist (ss : List Section) : (latest ss).Sublist ss := by
  fun_induction latest ss with
  | case1 => exact .slnil
  | case2 s ss hs ih => exact ih.cons s
  | case3 s ss hs ih => exact ih.cons_cons s

/-- No name is kept twice. -/
theorem nodup_map_name_latest (ss : List Section) : ((latest ss).map (·.name)).Nodup := by
  fun_induction latest ss with
  | case1 => exact List.nodup_nil
  | case2 s ss hs ih => exact ih
  | case3 s ss hs ih =>
      rw [List.map_cons, List.nodup_cons]
      refine ⟨?_, ih⟩
      intro hmem
      obtain ⟨u, hu, hname⟩ := List.mem_map.mp hmem
      exact hs (List.any_eq_true.mpr ⟨u, (latest_sublist ss).subset hu, by simpa using hname⟩)

/-- No name is lost. -/
theorem exists_mem_latest {ss : List Section} (h : s ∈ ss) :
    ∃ u ∈ latest ss, u.name = s.name := by
  fun_induction latest ss generalizing s with
  | case1 => simp at h
  | case2 u ss hu ih =>
      rcases List.mem_cons.mp h with rfl | h
      · obtain ⟨v, hv, hname⟩ := List.any_eq_true.mp hu
        obtain ⟨w, hw, heq⟩ := ih hv
        exact ⟨w, hw, heq.trans (of_decide_eq_true hname)⟩
      · exact ih h
  | case3 u ss hu ih =>
      rcases List.mem_cons.mp h with rfl | h
      · exact ⟨s, by simp, rfl⟩
      · obtain ⟨v, hv, hname⟩ := ih h
        exact ⟨v, List.mem_cons_of_mem u hv, hname⟩

theorem find?_eq_some_iff {ss : List Section} (h : (ss.map (·.name)).Nodup) :
    find? name ss = some s ↔ s ∈ ss ∧ s.name = name := by
  constructor
  · intro hs
    exact ⟨List.mem_of_find?_eq_some hs, by simpa using List.find?_some hs⟩
  · rintro ⟨hs, rfl⟩
    have hfound : (find? s.name ss).isSome = true :=
      List.find?_isSome.mpr ⟨s, hs, by simp⟩
    obtain ⟨u, hu⟩ := Option.isSome_iff_exists.mp hfound
    have hname : u.name = s.name := by simpa using List.find?_some hu
    rw [hu, List.inj_on_of_nodup_map h (List.mem_of_find?_eq_some hu) hs hname]

/-- What the headings of a text say about its sections: each name has one, in the order of the
lines, at its last heading and with the lines down to the next heading of any name. -/
structure ByHeadings (text : String) (ss : List Section) : Prop where
  names_nodup : (ss.map (·.name)).Nodup
  lines_ascend : ss.Pairwise fun s u => s.line < u.line
  name_mem_iff : ∀ name, name ∈ ss.map (·.name) ↔ ∃ n l, LineAt text n l ∧ HeadedBy name l
  heading : ∀ s ∈ ss, ∃ l, LineAt text s.line l ∧ HeadedBy s.name l
  last : ∀ s ∈ ss, ∀ n l, LineAt text n l → HeadedBy s.name l → n ≤ s.line
  below : ∀ s ∈ ss, Below text s.line s.lines
  body : ∀ s ∈ ss, s.body = String.ofList (trim (joinLines s.lines))
  find?_iff : ∀ name s, find? name ss = some s ↔ s ∈ ss ∧ s.name = name

theorem mem_written_of_mem_inText (h : s ∈ inText text) : s ∈ written text :=
  (latest_sublist (written text)).subset h

/-- The sections of a text are those that its headings call for, and looking up a name finds the
one of that name. -/
theorem inText_by_headings (text : String) : ByHeadings text (inText text) where
  names_nodup := nodup_map_name_latest (written text)
  lines_ascend := (pairwise_line_written text).sublist (latest_sublist _)
  name_mem_iff name := by
    constructor
    · intro hname
      obtain ⟨s, hs, rfl⟩ := List.mem_map.mp hname
      obtain ⟨l, hl, hhead⟩ := exists_heading_of_mem_written (mem_written_of_mem_inText hs)
      exact ⟨s.line, l, hl, hhead⟩
    · rintro ⟨n, l, hl, hhead⟩
      obtain ⟨s, hs, -, rfl⟩ := exists_mem_written hl hhead
      exact List.mem_map.mpr (exists_mem_latest hs)
  heading s hs := exists_heading_of_mem_written (mem_written_of_mem_inText hs)
  last s hs n l hl hhead :=
    le_line_of_heading hs hl (kind_of_opening? (opening?_eq_some_iff.mpr hhead))
  below s hs := below_of_mem_written (mem_written_of_mem_inText hs)
  body s _ := rfl
  find?_iff name s := find?_eq_some_iff (nodup_map_name_latest (written text))

end SpecReview.Section
