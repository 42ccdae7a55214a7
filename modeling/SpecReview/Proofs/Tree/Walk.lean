import SpecReview.Proofs.Except
import SpecReview.Proofs.Path.Parent
import SpecReview.Proofs.Tree.Node

/-! # Walks through a tree

The segments of a path are steps from folder to folder, and along links. One that says nothing stays
where it is, if the folder lets it, so that paths that say the same lead to the same place. -/

namespace SpecReview

open SpecReview.Path

namespace FileTree

variable {t : FileTree} {spot new : Spot} {depth : Nat} {place : List String} {s : List Char}
  {ss us : List (List Char)}

/-! ## Folders -/

def FolderAt (t : FileTree) (place : List String) : Prop :=
  ∃ access es, t.root.at? place = some (.folder access es)

theorem isFolder_iff {p : Path} :
    t.isFolder p = true ↔ ∃ place, t.locate p = .ok place ∧ t.FolderAt place := by
  unfold isFolder node? FolderAt
  cases h : t.locate p with
  | error e => simp
  | ok place =>
      cases hn : t.root.at? place with
      | none => simp [hn]
      | some n => cases n <;> simp [hn, Node.isFolder]

theorem FolderAt.dropLast (h : t.FolderAt place) : t.FolderAt place.dropLast := by
  rcases List.eq_nil_or_concat place with rfl | ⟨names, name, rfl⟩
  · exact h
  · obtain ⟨access, es, hes⟩ := h
    rw [List.concat_eq_append, Node.at?_append, Option.bind_eq_some_iff] at hes
    obtain ⟨n, hn, hname⟩ := hes
    obtain ⟨above, fs, rfl⟩ := Node.exists_folder_of_at?_cons hname
    rw [List.concat_eq_append, List.dropLast_concat]
    exact ⟨above, fs, hn⟩

theorem FolderAt.ne_link (h : t.FolderAt place) (target : Path) :
    t.root.at? place ≠ some (.link target) := by
  obtain ⟨access, es, hes⟩ := h
  simp [hes]

/-! ## Steps -/

/-- How a segment leads from a folder to the place that it names. -/
inductive Leads (place : List String) : List Char → List String → Prop where
  | stay {s : List Char} (h : idle s = true) : Leads place s place
  | up : Leads place ['.', '.'] place.dropLast
  | enter {s : List Char} (h : idle s = false) (hup : s ≠ ['.', '.']) :
      Leads place s (place ++ [String.ofList s])

theorem Leads.eq_of_plainName {named : List String} {name : String} (hname : PlainName name)
    (h : Leads place name.toList named) : named = place ++ [name] := by
  generalize hs : name.toList = s at h
  cases h with
  | stay hidle => simp [← hs, hname.idle_eq_false] at hidle
  | up => exact absurd hs hname.ne_dots
  | enter => rw [← hs, String.ofList_toList]

theorem of_next {named : List String} (h : t.next place s = .ok named) :
    t.FolderAt place ∧ Leads place s named := by
  unfold next at h
  split at h
  · rename_i access es hes
    refine ⟨⟨access, es, hes⟩, ?_⟩
    dsimp only at h
    split at h
    · rename_i hempty
      cases h
      exact .stay (by simp [idle, hempty])
    · rename_i hempty
      split at h
      · cases h
      · split at h
        · rename_i hdot
          cases h
          exact .stay (by simp [idle, hdot])
        · rename_i hdot
          split at h
          · rename_i hup
            cases h
            exact hup ▸ .up
          · rename_i hup
            split at h
            · cases h
            · split at h
              · cases h
                exact .enter (by simp [idle, hempty, hdot]) hup
              · cases h
  · cases h

theorem next_nil (h : t.FolderAt place) : t.next place [] = .ok place := by
  obtain ⟨access, es, hes⟩ := h
  simp [next, hes]

theorem next_of_not_folderAt (h : ¬ t.FolderAt place) (s : List Char) :
    t.next place s = .error .notFolder := by
  unfold next
  split
  · rename_i access es hes
    exact absurd ⟨access, es, hes⟩ h
  · rfl

/-- A step to a place without a link ends there. -/
theorem step_of_next (h : t.next spot.place s = .ok place)
    (hlink : ∀ target, t.root.at? place ≠ some (.link target)) :
    t.step depth spot s = .ok { spot with place } := by
  rw [step, h]
  cases hn : t.root.at? place with
  | none => simp [bind, Except.bind, hn]
  | some n =>
      cases n with
      | link target => exact absurd hn (hlink target)
      | _ => simp [bind, Except.bind, hn]

theorem of_step (h : t.step depth spot s = .ok new) : ∃ place, t.next spot.place s = .ok place := by
  rw [step] at h
  obtain ⟨place, hplace, -⟩ := bind_eq_ok_iff.mp h
  exact ⟨place, hplace⟩

theorem folderAt_of_step (h : t.step depth spot s = .ok new) : t.FolderAt spot.place := by
  obtain ⟨place, hplace⟩ := of_step h
  exact (of_next hplace).1

theorem step_nil (h : t.FolderAt spot.place) : t.step depth spot [] = .ok spot :=
  step_of_next (next_nil h) h.ne_link

theorem step_of_not_folderAt (h : ¬ t.FolderAt spot.place) (s : List Char) :
    t.step depth spot s = .error .notFolder := by
  rw [step, next_of_not_folderAt h]
  rfl

theorem eq_of_step_of_idle (h : t.step depth spot s = .ok new) (hs : idle s = true) :
    new = spot := by
  obtain ⟨place, hplace⟩ := of_step h
  obtain ⟨hfolder, hleads⟩ := of_next hplace
  have hstays : place = spot.place := by
    cases hleads with
    | stay => rfl
    | up => cases hs
    | enter hidle => simp [hs] at hidle
  rw [step_of_next hplace (hstays ▸ hfolder.ne_link), hstays] at h
  exact (Except.ok.inj h).symm

/-! ## Walks -/

theorem walk_cons (spot : Spot) (s : List Char) (ss : List (List Char)) :
    t.walk spot (s :: ss) = t.step linkLimit spot s >>= (t.walk · ss) :=
  List.foldlM_cons

theorem walk_append (spot : Spot) (ss us : List (List Char)) :
    t.walk spot (ss ++ us) = t.walk spot ss >>= (t.walk · us) :=
  List.foldlM_append

theorem walk_replicate_nil (h : t.FolderAt spot.place) (n : Nat) :
    t.walk spot (List.replicate n []) = .ok spot := by
  induction n with
  | zero => rfl
  | succ n ih =>
      rw [List.replicate_succ, walk_cons, step_nil h]
      exact ih

theorem eq_of_walk_of_idle (h : t.walk spot ss = .ok new) (hss : ∀ s ∈ ss, idle s = true) :
    new = spot := by
  induction ss generalizing spot with
  | nil => exact (Except.ok.inj h).symm
  | cons s ss ih =>
      rw [walk_cons, bind_eq_ok_iff] at h
      obtain ⟨mid, hmid, hnew⟩ := h
      cases eq_of_step_of_idle hmid (hss s (by simp))
      exact ih hnew fun u hu => hss u (List.mem_cons_of_mem s hu)

/-- An empty segment before others changes nothing, not even an error. -/
theorem walk_nil_cons (spot : Spot) (h : ss ≠ []) :
    t.walk spot [[]] >>= (t.walk · ss) = t.walk spot ss := by
  rw [← walk_append, List.singleton_append, walk_cons]
  by_cases hfolder : t.FolderAt spot.place
  · rw [step_nil hfolder]
    rfl
  · obtain ⟨s, ss, rfl⟩ := List.exists_cons_of_ne_nil h
    rw [walk_cons, step_of_not_folderAt hfolder, step_of_not_folderAt hfolder]
    rfl

/-! ## The depth of links -/

/-- What holds from before to after each step of a fold holds from before to after the fold. -/
theorem links_le_of_foldlM {f : Spot → List Char → Except ReadError Spot}
    (hf : ∀ spot s new, f spot s = .ok new → new.links ≤ spot.links)
    (h : ss.foldlM f spot = .ok new) : new.links ≤ spot.links := by
  induction ss generalizing spot with
  | nil =>
      cases h
      exact Nat.le_refl _
  | cons s ss ih =>
      rw [List.foldlM_cons, bind_eq_ok_iff] at h
      obtain ⟨mid, hmid, hnew⟩ := h
      exact Nat.le_trans (ih hnew) (hf _ _ _ hmid)

theorem links_le_of_step (h : t.step depth spot s = .ok new) : new.links ≤ spot.links := by
  induction depth generalizing spot new s with
  | zero =>
      rw [step, bind_eq_ok_iff] at h
      obtain ⟨place, -, h⟩ := h
      split at h
      · cases h
      · cases h
        exact Nat.le_refl _
  | succ depth ih =>
      rw [step, bind_eq_ok_iff] at h
      obtain ⟨place, -, h⟩ := h
      split at h
      · dsimp only at h
        split at h
        · cases h
        · have hlinks := links_le_of_foldlM (fun _ _ _ => ih) h
          exact Nat.le_trans hlinks (Nat.sub_le _ _)
      · cases h
        exact Nat.le_refl _

theorem foldlM_congr_of_links_le {f g : Spot → List Char → Except ReadError Spot} {links : Nat}
    (hf : ∀ spot s new, f spot s = .ok new → new.links ≤ spot.links)
    (hfg : ∀ spot s, spot.links ≤ links → f spot s = g spot s) (h : spot.links ≤ links) :
    ss.foldlM f spot = ss.foldlM g spot := by
  induction ss generalizing spot with
  | nil => rfl
  | cons s ss ih =>
      rw [List.foldlM_cons, List.foldlM_cons, ← hfg spot s h]
      cases hmid : f spot s with
      | error e => rfl
      | ok mid => exact ih (Nat.le_trans (hf _ _ _ hmid) h)

/-- The depth to which links are followed is no limit besides that on their number. -/
theorem step_eq_of_links_le {depth' : Nat} (h : spot.links ≤ depth) (h' : spot.links ≤ depth') :
    t.step depth spot s = t.step depth' spot s := by
  induction depth generalizing depth' spot s with
  | zero =>
      have hlinks : spot.links = 0 := Nat.le_zero.mp h
      rw [step, step]
      cases depth' <;> simp [hlinks]
  | succ depth ih =>
      rw [step, step]
      by_cases hlinks : spot.links = 0
      · cases depth' <;> simp [hlinks]
      · obtain ⟨depth', rfl⟩ := Nat.exists_eq_add_one_of_ne_zero (n := depth') (by omega)
        have hstep (mid : Spot) (u : List Char) (hmid : mid.links ≤ spot.links - 1) :
            t.step depth mid u = t.step depth' mid u :=
          ih (by omega) (by omega)
        simp only [hlinks, if_false]
        congr 1
        funext place
        split
        · exact foldlM_congr_of_links_le (fun _ _ _ => links_le_of_step) hstep (Nat.le_refl _)
        · rfl

/-! ## Trees without links -/

/-- In a tree without links a step ends at the place that its segment names. -/
theorem leads_of_step (ht : t.root.Unlinked) (h : t.step depth spot s = .ok new) :
    t.FolderAt spot.place ∧ Leads spot.place s new.place ∧ new.links = spot.links := by
  obtain ⟨place, hplace⟩ := of_step h
  rw [step_of_next hplace (ht.at?_ne_link place)] at h
  cases h
  exact ⟨(of_next hplace).1, (of_next hplace).2, rfl⟩

theorem links_of_walk (ht : t.root.Unlinked) (h : t.walk spot ss = .ok new) :
    new.links = spot.links := by
  induction ss generalizing spot with
  | nil =>
      cases h
      rfl
  | cons s ss ih =>
      rw [walk_cons, bind_eq_ok_iff] at h
      obtain ⟨mid, hmid, hnew⟩ := h
      exact (ih hnew).trans (leads_of_step ht hmid).2.2

/-! ## Paths -/

/-- Where the segments of a path lead, however long the path is. -/
def follow (t : FileTree) (p : Path) : Except ReadError Spot :=
  t.walk (t.start p) p.segments

theorem locate_eq_follow {p : Path} (h : p.withinLimit = true) (hp : p.text ≠ "") :
    t.locate p = (t.follow p).map (·.place) := by
  simp [locate, follow, h, hp]

theorem follow_of_locate {p : Path} (h : t.locate p = .ok place) :
    p.text ≠ "" ∧ ∃ links, t.follow p = .ok ⟨place, links⟩ := by
  have hlimit := withinLimit_of_locate h
  have hp : p.text ≠ "" := by
    intro hp
    simp [locate, hlimit, hp] at h
  rw [locate_eq_follow hlimit hp, map_eq_ok_iff] at h
  obtain ⟨⟨_, links⟩, hfollow, rfl⟩ := h
  exact ⟨hp, links, hfollow⟩

/-- A path leads where its spine leads. -/
theorem walk_spine_of_follow {p : Path} (h : t.follow p = .ok spot) :
    t.walk (t.start p) p.spine.reverse = .ok spot := by
  obtain ⟨bs, hsegments, hbs⟩ := exists_segments_eq p
  rw [follow, hsegments, walk_append, bind_eq_ok_iff] at h
  obtain ⟨mid, hmid, hspot⟩ := h
  rwa [eq_of_walk_of_idle hspot hbs]

/-- A path that is spelled with no more than slashes after its spine leads to the folder that the
spine leads to. -/
theorem follow_of_walk_spine {p : Path} {n : Nat}
    (hp : p.segments = p.spine.reverse ++ List.replicate n [])
    (h : t.walk (t.start p) p.spine.reverse = .ok spot) (hfolder : t.FolderAt spot.place) :
    t.follow p = .ok spot := by
  rw [follow, hp, walk_append, h]
  exact walk_replicate_nil hfolder n

/-- A path leads on along a relative one. -/
theorem follow_join {p : Path} {q : String} (hp : p.text ≠ "") (hq : isAbsolute ⟨q⟩ = false) :
    t.follow (p.join q) = t.follow p >>= (t.walk · (split q.toList)) := by
  -- What stands before the slash leads to one place, whether the slash was there or is added.
  have hslash {before : List Char} {r : Path}
      (hp : p.text.toList = before ∨ p.text.toList = before ++ ['/'])
      (hr : r.text.toList = before ++ '/' :: q.toList) :
      t.follow r = t.follow p >>= (t.walk · (split q.toList)) := by
    have hsegments : r.segments = split before ++ split q.toList := by
      rw [segments, hr, split_append]
    rcases hp with hbefore | hbefore
    · have hstart : t.start r = t.start p := by
        obtain ⟨c, cs, hcs⟩ := List.exists_cons_of_ne_nil (mt String.toList_eq_nil_iff.mp hp)
        rw [start, start, isAbsolute, isAbsolute, hr, hbefore.symm.trans hcs, hcs]
        rfl
      rw [follow, follow, hsegments, hstart, segments, hbefore, walk_append]
    · have hstart : t.start r = t.start p := by
        rw [start, start, isAbsolute, isAbsolute, hr, hbefore]
        cases before <;> rfl
      rw [follow, follow, hsegments, hstart, segments, hbefore, split_append, walk_append,
        walk_append]
      cases t.walk (t.start p) (split before) with
      | error e => rfl
      | ok mid => exact (walk_nil_cons mid (split_ne_nil _)).symm
  rw [join, hq, if_neg Bool.false_ne_true]
  by_cases hlast : p.text.toList.getLast? = some '/'
  · obtain ⟨before, hbefore⟩ := List.getLast?_eq_some_iff.mp hlast
    rw [if_pos (by simp [hlast])]
    exact hslash (Or.inr hbefore) (by simp [hbefore])
  · rw [if_neg (by simp [hp, hlast])]
    exact hslash (Or.inl rfl) (by simp)

/-- A plain name joined to a path leads on from where it leads. -/
theorem follow_join_name {p : Path} {name : String} (hp : p.text ≠ "") (hname : PlainName name) :
    t.follow (p.join name) = t.follow p >>= (t.step linkLimit · name.toList) := by
  rw [follow_join hp hname.isAbsolute_eq_false, split_of_slash_notMem hname.no_slash]
  congr 1
  funext spot
  rw [walk_cons]
  cases t.step linkLimit spot name.toList <;> rfl

/-- The parent of a path leads to where the last step of the path starts. -/
theorem exists_step_of_parent? {p q : Path} (h : p.parent? = some q) (hq : q.text ≠ "")
    (hspot : t.follow p = .ok spot) :
    ∃ above s, t.follow q = .ok above ∧ t.step linkLimit above s = .ok spot ∧ idle s = false ∧
      p.components = (q.components.1, q.components.2 ++ [s]) := by
  rcases of_parent? h with ⟨_, -, -, rfl⟩ | ⟨s, rest, hrest, hspine, hqspine, habsolute, -, n, hn⟩
  · exact absurd rfl hq
  · have hwalk := walk_spine_of_follow hspot
    rw [hspine, List.reverse_cons, walk_append, bind_eq_ok_iff] at hwalk
    obtain ⟨above, habove, hstep⟩ := hwalk
    rw [walk_cons, bind_eq_ok_iff] at hstep
    obtain ⟨reached, hreached, hspot⟩ := hstep
    cases hspot
    refine ⟨above, s, ?_, hreached, idle_eq_false_of_dropIdle hspine hrest,
      components_of_spine hrest hspine hqspine habsolute⟩
    obtain ⟨bs, hbs, hidle⟩ := exists_append_dropIdle rest
    have hreverse : rest.reverse = (dropIdle rest).reverse ++ bs.reverse := by
      rw [← List.reverse_append, ← hbs]
    rw [hreverse, walk_append, bind_eq_ok_iff] at habove
    obtain ⟨mid, hmid, habove⟩ := habove
    cases eq_of_walk_of_idle habove (by simpa using hidle)
    refine follow_of_walk_spine hn ?_ (folderAt_of_step hreached)
    rwa [hqspine, start, habsolute]

end FileTree

end SpecReview
