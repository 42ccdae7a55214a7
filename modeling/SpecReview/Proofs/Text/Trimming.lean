import Mathlib.Data.List.DropRight
import SpecReview.Text.Blank
import SpecReview.Text.Lines

/-! # Trimmed texts and their lines

What trimming makes of two texts one after the other, and the lines of a text that is put
together from lines. -/

namespace SpecReview.Text

/-! ## Trimming -/

@[simp]
theorem isBlank_newline : isBlank '\n' = true := by decide

@[simp]
theorem isBlank_return : isBlank '\r' = true := by decide

theorem trimEnd_append (cs bs : List Char) :
    trimEnd (cs ++ bs) = if trimEnd bs = [] then trimEnd cs else cs ++ trimEnd bs := by
  induction cs with
  | nil => by_cases h : trimEnd bs = [] <;> simp [h, trimEnd]
  | cons c cs ih =>
      rw [List.cons_append, trimEnd, ih]
      by_cases h : trimEnd bs = []
      · simp only [h, if_true]
        rw [trimEnd]
      · obtain ⟨b, bs', hb⟩ := List.exists_cons_of_ne_nil h
        cases cs <;> simp [hb]

theorem trimEnd_append_of_blank {bs : List Char} (h : ∀ b ∈ bs, isBlank b = true)
    (cs : List Char) : trimEnd (cs ++ bs) = trimEnd cs := by
  rw [trimEnd_append, if_pos (trimEnd_eq_nil_iff.mpr h)]

@[simp]
theorem trimEnd_trimEnd (cs : List Char) : trimEnd (trimEnd cs) = trimEnd cs := by
  obtain ⟨bs, hcs, hbs⟩ := exists_append_of_trimEnd cs
  have happend := trimEnd_append_of_blank hbs (trimEnd cs)
  rw [← hcs] at happend
  exact happend.symm

theorem isPrefix_trimEnd (cs : List Char) : trimEnd cs <+: cs := by
  obtain ⟨bs, hcs, -⟩ := exists_append_of_trimEnd cs
  exact ⟨bs, hcs.symm⟩

theorem trimStart_subset (cs : List Char) : trimStart cs ⊆ cs :=
  (List.dropWhile_suffix isBlank).subset

theorem trim_subset (cs : List Char) : trim cs ⊆ cs :=
  fun _ h => trimStart_subset cs ((isPrefix_trimEnd _).subset h)

theorem trimStart_eq_nil_iff {cs : List Char} :
    trimStart cs = [] ↔ ∀ c ∈ cs, isBlank c = true :=
  List.dropWhile_eq_nil_iff

@[simp]
theorem trimStart_trimStart (cs : List Char) : trimStart (trimStart cs) = trimStart cs :=
  List.dropWhile_idempotent isBlank cs

theorem trimStart_append (cs bs : List Char) :
    trimStart (cs ++ bs) = if trimStart cs = [] then trimStart bs else trimStart cs ++ bs := by
  rw [trimStart, List.dropWhile_append]
  cases h : cs.dropWhile isBlank <;> simp [trimStart, h]

theorem trimStart_cons_of_not_blank {c : Char} (h : isBlank c = false) (cs : List Char) :
    trimStart (c :: cs) = c :: cs := by
  simp [trimStart, h]

theorem trim_append_of_blank {bs : List Char} (h : ∀ b ∈ bs, isBlank b = true)
    (cs : List Char) : trim (cs ++ bs) = trim cs := by
  rw [trim, trim, trimStart_append]
  by_cases hcs : trimStart cs = []
  · rw [if_pos hcs, hcs, trimStart_eq_nil_iff.mpr h]
  · rw [if_neg hcs, trimEnd_append_of_blank h]

/-- What ends with no blank is there already without the blanks at the end. -/
theorem exists_append_of_append_blank {cs bs ds rest : List Char} {d : Char}
    (hbs : ∀ b ∈ bs, isBlank b = true) (hd : isBlank d = false)
    (h : cs ++ bs = ds ++ [d] ++ rest) : ∃ more, cs = ds ++ [d] ++ more ∧ rest = more ++ bs := by
  rcases List.append_eq_append_iff.mp h with ⟨es, hds, hblank⟩ | ⟨more, hcs, hrest⟩
  · rcases List.eq_nil_or_concat' es with rfl | ⟨es, e, rfl⟩
    · exact ⟨[], by simpa using hds.symm, by simpa using hblank.symm⟩
    · rw [← List.append_assoc] at hds
      have hlast : d = e := by simpa using (List.append_inj' hds rfl).2
      have hblank : isBlank e = true := hbs e (by simp [hblank])
      rw [← hlast, hd] at hblank
      exact absurd hblank Bool.false_ne_true
  · exact ⟨more, hcs, hrest⟩

/-- A text that has no blanks at its ends has none at either end. -/
theorem trimStart_and_trimEnd_of_trim {cs : List Char} (h : trim cs = cs) :
    trimStart cs = cs ∧ trimEnd cs = cs := by
  have hstart : trimStart cs = cs := by
    obtain ⟨bs, hbs, -⟩ := exists_append_of_trimEnd (trimStart cs)
    have hlength : cs.length ≤ (trimStart cs).length := by
      have htotal := congrArg List.length hbs
      have hcs : (trimEnd (trimStart cs)).length = cs.length := congrArg List.length h
      rw [List.length_append] at htotal
      omega
    exact (List.dropWhile_suffix isBlank).eq_of_length_le hlength
  exact ⟨hstart, by rwa [trim, hstart] at h⟩

theorem isBlank_of_trimStart_cons {c : Char} {cs : List Char} (h : trimStart (c :: cs) = c :: cs) :
    isBlank c = false := by
  cases hc : isBlank c with
  | false => rfl
  | true =>
      have hsuffix : trimStart cs <:+ cs := List.dropWhile_suffix isBlank
      have hdrop : trimStart (c :: cs) = trimStart cs := by simp [trimStart, hc]
      have hlength := hsuffix.length_le
      rw [← hdrop, h, List.length_cons] at hlength
      omega

theorem trim_trim (cs : List Char) : trim (trim cs) = trim cs := by
  have hstart : trimStart (trim cs) = trim cs := by
    cases h : trim cs with
    | nil => rfl
    | cons c ds =>
        -- The first character that is kept is that of the text without the blanks ahead of it.
        obtain ⟨es, hes⟩ : c :: ds <+: trimStart cs := h ▸ isPrefix_trimEnd (trimStart cs)
        have hfirst : trimStart (c :: (ds ++ es)) = c :: (ds ++ es) := by
          rw [← List.cons_append, hes, trimStart_trimStart]
        exact trimStart_cons_of_not_blank (isBlank_of_trimStart_cons hfirst) ds
  rw [trim, hstart, trim, trimEnd_trimEnd]

/-! ## Lines -/

/-- A line without the carriage return that may end it. -/
def dropReturn (l : List Char) : List Char :=
  if l.getLast? = some '\r' then l.dropLast else l

theorem dropReturn_of_getLast? {l : List Char} (h : l.getLast? ≠ some '\r') : dropReturn l = l :=
  if_neg h

theorem lines_append_newline_eq {l : List Char} (h : '\n' ∉ l) (cs : List Char) :
    lines (l ++ '\n' :: cs) = dropReturn l :: lines cs := by
  by_cases hr : l.getLast? = some '\r'
  · obtain ⟨m, rfl⟩ := List.getLast?_eq_some_iff.mp hr
    have hm : '\n' ∉ m := fun hmem => h (List.mem_append_left _ hmem)
    have hdrop : dropReturn (m ++ ['\r']) = m := by simp [dropReturn]
    rw [hdrop, List.append_assoc]
    clear h hr hdrop
    induction m with
    | nil => rfl
    | cons c m ih =>
        rw [List.mem_cons, not_or] at hm
        rw [List.cons_append, lines_cons (Ne.symm hm.1), ih hm.2]
        · rfl
        · intro _
          cases m with
          | nil => simp
          | cons d m => simpa using fun he => hm.2 (by simp [he])
  · rw [lines_append_newline h hr, dropReturn_of_getLast? hr]

/-- Lines that end with newlines are lines of the text. -/
theorem lines_joinLines_append {ls : List (List Char)} (hne : ls ≠ [])
    (hn : ∀ l ∈ ls, '\n' ∉ l) (hr : ∀ l ∈ ls, l.getLast? ≠ some '\r') (cs : List Char) :
    lines (joinLines ls ++ '\n' :: cs) = ls ++ lines cs := by
  induction ls with
  | nil => exact absurd rfl hne
  | cons l ls ih =>
      cases ls with
      | nil => exact lines_append_newline (hn l (by simp)) (hr l (by simp)) cs
      | cons m ls =>
          rw [joinLines, List.append_assoc, List.cons_append,
            lines_append_newline (hn l (by simp)) (hr l (by simp)),
            ih (by simp) (fun l' h => hn l' (List.mem_cons_of_mem _ h))
              (fun l' h => hr l' (List.mem_cons_of_mem _ h))]
          rfl

theorem mem_joinLines {c : Char} {l : List Char} {ls : List (List Char)} (hl : l ∈ ls)
    (hc : c ∈ l) : c ∈ joinLines ls := by
  induction ls with
  | nil => simp at hl
  | cons m ls ih =>
      cases ls with
      | nil =>
          rw [List.mem_singleton] at hl
          rwa [joinLines, ← hl]
      | cons m' ls =>
          rw [joinLines, List.mem_append, List.mem_cons]
          rcases List.mem_cons.mp hl with rfl | hl
          · exact Or.inl hc
          · exact Or.inr (Or.inr (ih hl))

theorem mem_of_mem_lines {cs l : List Char} (hl : l ∈ lines cs) {c : Char} (hc : c ∈ l) : c ∈ cs := by
  fun_induction lines cs generalizing l with
  | case1 => simp at hl
  | case2 cs ih =>
      rcases List.mem_cons.mp hl with rfl | hl
      · simp at hc
      · exact List.mem_cons_of_mem _ (ih hl hc)
  | case3 cs ih =>
      rcases List.mem_cons.mp hl with rfl | hl
      · simp at hc
      · exact List.mem_cons_of_mem _ (List.mem_cons_of_mem _ (ih hl hc))
  | case4 d cs _ _ _ ih =>
      obtain rfl := List.mem_singleton.mp hl
      simp [List.mem_singleton.mp hc]
  | case5 d cs _ _ m ms hlines ih =>
      rcases List.mem_cons.mp hl with rfl | hl
      · rcases List.mem_cons.mp hc with rfl | hc
        · simp
        · exact List.mem_cons_of_mem d (ih (by simp [hlines]) hc)
      · exact List.mem_cons_of_mem d (ih (by simp [hlines, hl]) hc)

theorem of_mem_joinLines {c : Char} {ls : List (List Char)} (h : c ∈ joinLines ls) :
    c = '\n' ∨ ∃ l ∈ ls, c ∈ l := by
  induction ls with
  | nil => simp [joinLines] at h
  | cons l ls ih =>
      cases ls with
      | nil => exact Or.inr ⟨l, by simp, h⟩
      | cons m ls =>
          rw [joinLines, List.mem_append, List.mem_cons] at h
          rcases h with h | h | h
          · exact Or.inr ⟨l, by simp, h⟩
          · exact Or.inl h
          · rcases ih h with hnewline | ⟨k, hk, hc⟩
            · exact Or.inl hnewline
            · exact Or.inr ⟨k, List.mem_cons_of_mem l hk, hc⟩

theorem joinLines_append_nil {ls : List (List Char)} (h : ls ≠ []) :
    joinLines (ls ++ [[]]) = joinLines ls ++ ['\n'] := by
  induction ls with
  | nil => exact absurd rfl h
  | cons l ls ih =>
      cases ls with
      | nil => rfl
      | cons m ls =>
          rw [List.cons_append, List.cons_append, joinLines, ← List.cons_append, ih (by simp),
            joinLines, List.append_assoc, List.cons_append]

/-- A text without carriage returns that does not end with a newline is put together from its
lines. -/
theorem joinLines_lines {cs : List Char} (hr : '\r' ∉ cs) (hn : cs.getLast? ≠ some '\n') :
    joinLines (lines cs) = cs := by
  induction cs with
  | nil => rfl
  | cons c cs ih =>
      rw [List.mem_cons, not_or] at hr
      cases cs with
      | nil =>
          have hc : c ≠ '\n' := by simpa using hn
          rw [lines_cons hc (fun he => absurd he.symm hr.1)]
          rfl
      | cons d cs =>
          have ih := ih hr.2 (by simpa [List.getLast?_cons_cons] using hn)
          have hlines : lines (d :: cs) ≠ [] := by
            intro hnil
            rw [hnil] at ih
            cases ih
          obtain ⟨l, ls, hls⟩ := List.exists_cons_of_ne_nil hlines
          by_cases hc : c = '\n'
          · subst hc
            have hstep : lines ('\n' :: d :: cs) = [] :: lines (d :: cs) := rfl
            rw [hstep, hls, joinLines, ← hls, ih, List.nil_append]
          · rw [lines_cons hc (fun he => absurd he.symm hr.1), hls]
            rw [hls] at ih
            cases ls with
            | nil =>
                rw [joinLines] at ih
                simp [joinLines, ih]
            | cons m ls =>
                rw [joinLines] at ih
                simp [joinLines, ih]

/-! ## Texts of whole lines -/

/-- A text that, put ahead of any other, adds lines to those of the other. -/
def WholeLines (cs : List Char) (ls : List (List Char)) : Prop :=
  ∀ ds, lines (cs ++ ds) = ls ++ lines ds

namespace WholeLines

theorem nil : WholeLines [] [] := fun _ => rfl

theorem append {cs ds : List Char} {ls ms : List (List Char)} (h : WholeLines cs ls)
    (h' : WholeLines ds ms) : WholeLines (cs ++ ds) (ls ++ ms) := by
  intro es
  rw [List.append_assoc, h, h', List.append_assoc]

theorem joinLines {ls : List (List Char)} (hne : ls ≠ []) (hn : ∀ l ∈ ls, '\n' ∉ l)
    (hr : ∀ l ∈ ls, l.getLast? ≠ some '\r') :
    WholeLines (Text.joinLines ls ++ ['\n']) ls := by
  intro ds
  rw [List.append_assoc]
  exact lines_joinLines_append hne hn hr ds

theorem line {l : List Char} (hn : '\n' ∉ l) (hr : l.getLast? ≠ some '\r') :
    WholeLines (l ++ ['\n']) [l] := by
  intro ds
  rw [List.append_assoc]
  exact lines_append_newline hn hr ds

theorem foldr {α : Type} {xs : List α} {entry : α → String} {rows : α → List (List Char)}
    (h : ∀ x ∈ xs, WholeLines (entry x).toList (rows x)) :
    WholeLines (xs.foldr (fun x rest => entry x ++ rest) "").toList (xs.flatMap rows) := by
  induction xs with
  | nil => exact nil
  | cons x xs ih =>
      rw [List.foldr_cons, String.toList_append, List.flatMap_cons]
      exact (h x (by simp)).append (ih fun y hy => h y (List.mem_cons_of_mem x hy))

theorem lines_eq {cs : List Char} {ls : List (List Char)} (h : WholeLines cs ls) :
    lines cs = ls := by
  simpa [lines] using h []

end WholeLines

/-- Whether a newline ends the last line of a text, if the text has a line. -/
def Terminated (cs : List Char) : Prop :=
  cs = [] ∨ cs.getLast? = some '\n'

instance : DecidablePred Terminated :=
  fun _ => inferInstanceAs (Decidable (_ ∨ _))

theorem lines_ne_nil {cs : List Char} (h : cs ≠ []) : lines cs ≠ [] := by
  fun_cases lines cs <;> simp_all

theorem Terminated.wholeLines {cs : List Char} (h : Terminated cs) : WholeLines cs (lines cs) := by
  have htail {c : Char} {ds : List Char} (h : Terminated (c :: ds)) : Terminated ds := by
    cases ds with
    | nil => exact Or.inl rfl
    | cons d ds => simpa [Terminated, List.getLast?_cons_cons] using h
  have hmore {c : Char} {ds : List Char} (h : Terminated (c :: ds)) (hc : c ≠ '\n') : ds ≠ [] := by
    rintro rfl
    exact hc (by simpa [Terminated] using h)
  intro ds
  fun_induction lines cs with
  | case1 => rfl
  | case2 cs ih => exact congrArg (List.cons []) (ih (htail h))
  | case3 cs ih => exact congrArg (List.cons []) (ih (htail (htail h)))
  | case4 c cs hn hr hlines ih => exact absurd hlines (lines_ne_nil (hmore h hn))
  | case5 c cs hn hr l ls hlines ih =>
      have hhead : c = '\r' → (cs ++ ds).head? ≠ some '\n' := by
        obtain ⟨d, es, rfl⟩ := List.exists_cons_of_ne_nil (hmore h hn)
        rintro rfl he
        simp_all
      rw [List.cons_append, lines_cons hn hhead, ih (htail h), hlines]
      rfl

end SpecReview.Text
