import SpecReview.Proofs.Tree.Walk

/-! # Spellings of one path at any length

More slashes at the end of a path make it longer and lead to the same folder. The path may so come
to be too long for what is beneath the folder. -/

namespace SpecReview

/-- A path spelled with more slashes at its end. -/
def Path.withSlashes (p : Path) (n : Nat) : Path :=
  ⟨p.text ++ String.ofList (List.replicate n '/')⟩

namespace Path

theorem split_replicate_slash (n : Nat) :
    split (List.replicate n '/') = List.replicate (n + 1) [] := by
  induction n with
  | zero => rfl
  | succ n ih => rw [List.replicate_succ, split, if_pos rfl, ih, ← List.replicate_succ]

theorem utf8ByteSize_withSlashes (p : Path) (n : Nat) :
    (p.withSlashes n).text.utf8ByteSize = p.text.utf8ByteSize + n := by
  have hslashes : (String.ofList (List.replicate n '/')).utf8ByteSize = n := by
    induction n with
    | zero => rfl
    | succ n ih =>
        have hslash : (String.singleton '/').utf8ByteSize = 1 := rfl
        rw [List.replicate_succ, String.ofList_cons, String.utf8ByteSize_append, ih, hslash,
          Nat.add_comm]
  rw [withSlashes, String.utf8ByteSize_append, hslashes]

theorem join_withSlashes (p : Path) (n : Nat) {q : String} (hq : isAbsolute ⟨q⟩ = false) :
    (p.withSlashes (n + 1)).join q = ⟨(p.withSlashes (n + 1)).text ++ q⟩ := by
  have hlast : (p.withSlashes (n + 1)).text.toList.getLast? = some '/' := by
    simp [withSlashes, List.replicate_succ']
  simp [join, hq, hlast]

theorem utf8ByteSize_join_withSlashes (p : Path) {n : Nat} (hn : 0 < n) {q : String}
    (hq : isAbsolute ⟨q⟩ = false) :
    ((p.withSlashes n).join q).text.utf8ByteSize =
      p.text.utf8ByteSize + n + q.utf8ByteSize := by
  obtain ⟨m, rfl⟩ := Nat.exists_eq_add_one.mpr hn
  rw [join_withSlashes p m hq, String.utf8ByteSize_append, utf8ByteSize_withSlashes]

end Path

/-- More slashes at the end of its path lead to the same folder. -/
theorem FileTree.follow_withSlashes {t : FileTree} {p : Path} {spot : Spot}
    (hp : p.text ≠ "") (hspot : t.follow p = .ok spot) (hfolder : t.FolderAt spot.place) (n : Nat) :
    t.follow (p.withSlashes n) = .ok spot := by
  cases n with
  | zero => simpa [Path.withSlashes] using hspot
  | succ n =>
      have htext : (p.withSlashes (n + 1)).text.toList =
          p.text.toList ++ '/' :: List.replicate n '/' := by
        simp [Path.withSlashes, List.replicate_succ]
      have hstart : t.start (p.withSlashes (n + 1)) = t.start p := by
        obtain ⟨c, cs, hcs⟩ := List.exists_cons_of_ne_nil (mt String.toList_eq_nil_iff.mp hp)
        rw [start, start, Path.isAbsolute, Path.isAbsolute, htext, hcs]
        rfl
      have hsegments : (p.withSlashes (n + 1)).segments =
          p.segments ++ List.replicate (n + 1) [] := by
        rw [Path.segments, htext, Path.split_append, Path.split_replicate_slash, Path.segments]
      rw [follow] at hspot
      rw [follow, hsegments, hstart, walk_append, hspot]
      exact walk_replicate_nil hfolder (n + 1)

/-- A relative path joined to such a path leads on from the folder. -/
theorem FileTree.locate_join_withSlashes {t : FileTree} {p : Path} {spot : Spot} {q : String}
    {n : Nat} (hp : p.text ≠ "") (hspot : t.follow p = .ok spot) (hfolder : t.FolderAt spot.place)
    (hq : Path.isAbsolute ⟨q⟩ = false) (hlimit : ((p.withSlashes n).join q).withinLimit = true) :
    t.locate ((p.withSlashes n).join q) = (t.walk spot (Path.split q.toList)).map (·.place) := by
  have htext : (p.withSlashes n).text ≠ "" := by
    intro hempty
    have hsize := Path.utf8ByteSize_withSlashes p n
    rw [hempty] at hsize
    exact hp (String.utf8ByteSize_eq_zero_iff.mp (by simp at hsize; omega))
  rw [locate_eq_follow hlimit (Path.join_text_ne htext q), follow_join htext hq,
    follow_withSlashes hp hspot hfolder n]
  rfl

end SpecReview
