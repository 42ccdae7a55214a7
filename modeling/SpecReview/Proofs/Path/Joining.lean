import SpecReview.Proofs.Path.Components

/-! # Texts of joined paths

A relative path that is joined to another stands after it and a slash, unless there is a slash there
or nothing at all. -/

namespace SpecReview.Path

variable {p : Path} {name q : String}

/-- What stands before a relative path that is joined to a path. -/
def lead (p : Path) : String :=
  if p.text.isEmpty || p.text.toList.getLast? = some '/' then p.text else p.text ++ "/"

theorem join_eq (p : Path) (hq : isAbsolute ⟨q⟩ = false) :
    p.join q = ⟨p.lead ++ q⟩ := by
  rw [join, hq, if_neg Bool.false_ne_true, lead]
  split <;> rfl

theorem join_text_ne_of_ne (p : Path) (hq : q ≠ "") : (p.join q).text ≠ "" := by
  unfold join
  split
  · exact hq
  · split <;> simp [hq]

theorem utf8ByteSize_lead_le (p : Path) : p.lead.utf8ByteSize ≤ p.text.utf8ByteSize + 1 := by
  have hslash : "/".utf8ByteSize = 1 := by decide
  rw [lead]
  split
  · exact Nat.le_add_right _ _
  · exact Nat.le_of_eq (by rw [String.utf8ByteSize_append, hslash])

theorem utf8ByteSize_join (p : Path) (hq : isAbsolute ⟨q⟩ = false) :
    (p.join q).text.utf8ByteSize = p.lead.utf8ByteSize + q.utf8ByteSize := by
  rw [join_eq p hq, String.utf8ByteSize_append]

theorem lead_of_getLast? {c : Char} (h : p.text.toList.getLast? = some c) (hc : c ≠ '/') :
    p.lead = p.text ++ "/" := by
  rw [lead, if_neg]
  have hne : p.text ≠ "" := by
    intro hempty
    simp [hempty] at h
  simp [h, hc, hne]

theorem lead_mk_lead (p : Path) : lead ⟨p.lead⟩ = p.lead := by
  have hlead : p.lead.isEmpty = true ∨ p.lead.toList.getLast? = some '/' := by
    rw [lead]
    split
    · rename_i h
      simpa using h
    · simp
  rw [lead, if_pos (by simpa using hlead)]

/-- Nothing between a path and what is joined to it makes no difference. -/
theorem join_empty_join (p : Path) (hq : isAbsolute ⟨q⟩ = false) :
    (p.join "").join q = p.join q := by
  rw [join_eq p (q := "") (by decide), join_eq _ hq, String.append_empty, lead_mk_lead, join_eq p hq]

theorem join_append_slash (p : Path) (hname : PlainName name) (hq : isAbsolute ⟨q⟩ = false) :
    p.join (name ++ "/" ++ q) = (p.join name).join q := by
  obtain ⟨c, hc⟩ := Option.ne_none_iff_exists'.mp (mt List.getLast?_eq_none_iff.mp hname.ne_empty)
  have hslash : c ≠ '/' := fun h => hname.no_slash (h ▸ List.mem_of_getLast? hc)
  have hrelative : isAbsolute ⟨name ++ "/" ++ q⟩ = false := by
    obtain ⟨d, ds, hd⟩ := List.exists_cons_of_ne_nil hname.ne_empty
    have habsolute := hname.isAbsolute_eq_false
    simpa [isAbsolute, hd] using habsolute
  have hlast : (p.lead ++ name).toList.getLast? = some c := by
    rw [String.toList_append, List.getLast?_append, hc]
    rfl
  rw [join_eq p hrelative, join_eq p hname.isAbsolute_eq_false, join_eq _ hq,
    lead_of_getLast? hlast hslash]
  simp [String.append_assoc]

end SpecReview.Path
