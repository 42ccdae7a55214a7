/-! # Computations that may fail

What it takes for a computation to have come to a result, and what it takes to have failed. -/

namespace SpecReview

variable {ε α β : Type}

theorem bind_eq_ok_iff {x : Except ε α} {f : α → Except ε β} {b : β} :
    x >>= f = .ok b ↔ ∃ a, x = .ok a ∧ f a = .ok b := by
  cases x <;> simp [bind, Except.bind]

theorem map_eq_ok_iff {x : Except ε α} {f : α → β} {b : β} :
    x.map f = .ok b ↔ ∃ a, x = .ok a ∧ f a = b := by
  cases x <;> simp [Except.map]

theorem map_eq_error_iff {x : Except ε α} {f : α → β} {e : ε} :
    x.map f = .error e ↔ x = .error e := by
  cases x <;> simp [Except.map]

theorem bind_eq_error_iff {x : Except ε α} {f : α → Except ε β} {e : ε} :
    x >>= f = .error e ↔ x = .error e ∨ ∃ a, x = .ok a ∧ f a = .error e := by
  cases x <;> simp [bind, Except.bind]

/-- A run over a list fails at the first entry that does. -/
theorem mapM_eq_error_iff {f : α → Except ε β} {failures : α → List ε}
    (h : ∀ a e, f a = .error e ↔ (failures a).head? = some e) {as : List α} {e : ε} :
    as.mapM f = .error e ↔ (as.flatMap failures).head? = some e := by
  induction as with
  | nil => simp [pure, Except.pure]
  | cons a as ih =>
      rw [List.mapM_cons, List.flatMap_cons, List.head?_append, bind_eq_error_iff, h,
        Option.or_eq_some_iff]
      refine or_congr_right ?_
      cases ha : f a with
      | error e' => simp [(h a e').mp ha]
      | ok b =>
          have hnone : (failures a).head? = none := by
            rw [Option.eq_none_iff_forall_ne_some]
            intro e' he'
            rw [(h a e').mpr he'] at ha
            cases ha
          rw [hnone, ← ih]
          simp [bind_eq_error_iff, pure, Except.pure]

theorem exists_of_mem_mapM {f : α → Except ε β} {as : List α} {bs : List β}
    (h : as.mapM f = .ok bs) {b : β} (hb : b ∈ bs) : ∃ a ∈ as, f a = .ok b := by
  induction as generalizing bs with
  | nil =>
      cases h
      cases hb
  | cons a as ih =>
      rw [List.mapM_cons] at h
      obtain ⟨b', hb', h⟩ := bind_eq_ok_iff.mp h
      obtain ⟨bs', hbs, h⟩ := bind_eq_ok_iff.mp h
      cases h
      rcases List.mem_cons.mp hb with rfl | hb
      · exact ⟨a, by simp, hb'⟩
      · obtain ⟨a', ha', hf⟩ := ih hbs hb
        exact ⟨a', List.mem_cons_of_mem a ha', hf⟩

theorem mapM_congr {f g : α → Except ε β} {as : List α} (h : ∀ a ∈ as, f a = g a) :
    as.mapM f = as.mapM g := by
  induction as with
  | nil => rfl
  | cons a as ih =>
      obtain ⟨ha, has⟩ := List.forall_mem_cons.mp h
      rw [List.mapM_cons, List.mapM_cons, ha, ih has]

theorem eq_ok_of_toOption {x : Except ε α} {a : α} (h : x.toOption = some a) : x = .ok a := by
  cases x with
  | error e => cases h
  | ok b => exact congrArg Except.ok (Option.some.inj h)

end SpecReview
