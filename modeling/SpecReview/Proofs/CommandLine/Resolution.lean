import SpecReview.Proofs.CommandLine.Everything

/-! # Ids without a kind

An id that a project lists names its change or its spec by itself, unless it is the id of both. The
ids are listed by the names of folders, while an item is looked up by what two paths lead to. The
two part at the archive, which is a folder among the changes and no change, at links, which are
looked up and not listed, and at a path that cannot be followed. -/

namespace SpecReview.CommandLine.Target

open SpecReview.Project

variable {t : FileTree} {root : Path} {id : String}

/-! ## Listed ids -/

theorem plainName_of_listed (ht : t.root.Plain) (h : id ∈ changeIds t root ∨ id ∈ specIds t root) :
    Path.PlainName id := by
  rcases h with h | h
  · exact FileTree.plainName_of_mem_visibleFolders ht (List.mem_of_mem_filter h)
  · exact FileTree.plainName_of_mem_visibleFolders ht (List.mem_of_mem_filter h)

theorem visible_of_listed (h : id ∈ changeIds t root ∨ id ∈ specIds t root) :
    id.toList.head? ≠ some '.' := by
  rcases h with h | h
  · exact (FileTree.mem_visibleFolders_iff.mp (List.mem_of_mem_filter h)).1
  · exact (FileTree.mem_visibleFolders_iff.mp (List.mem_of_mem_filter h)).1

/-- A folder is found for a change of the id of a spec that is not the id of a change if that is the
archive, or if the list of the changes passes over it. -/
theorem archive_or_overlooks_of_isFolder (ht : t.root.Plain) (hspec : id ∈ specIds t root)
    (hchange : id ∉ changeIds t root) (h : t.isFolder (changePath root id) = true) :
    id = "archive" ∨ t.Overlooks (root.join "changes") id := by
  have hlisted := Or.inr (a := id ∈ changeIds t root) hspec
  exact (mem_changeIds_or_overlooks ht (plainName_of_listed ht hlisted)
    (visible_of_listed hlisted) h).resolve_left hchange

/-- A file is found for a spec of the id of a change that is not the id of a spec if the list of the
specs passes over it. -/
theorem overlooks_of_isFile (ht : t.root.Plain) (hchange : id ∈ changeIds t root)
    (hspec : id ∉ specIds t root) (h : t.isFile (specPath root id) = true) :
    t.Overlooks (root.join "specs") id := by
  have hlisted := Or.inl (b := id ∈ specIds t root) hchange
  exact (mem_specIds_or_overlooks ht (plainName_of_listed ht hlisted)
    (visible_of_listed hlisted) h).resolve_left hspec

/-- Where a spec of an id is found, the path of a change of that id is short enough. -/
theorem isFolder_changePath_iff_of_both (ht : t.root.Plain) (hs : t.root.Short)
    (hchange : id ∈ changeIds t root) (hspec : id ∈ specIds t root) :
    t.isFolder (changePath root id) = true ↔ t.bar? (root.join "changes") id = none := by
  have hlimit := FileTree.withinLimit_of_isFile (isFile_specPath hspec)
  have hname := plainName_of_listed ht (Or.inl hchange)
  rw [isFolder_changePath_iff ht hs hchange]
  exact and_iff_right (withinLimit_changePath hname hlimit)

/-! ## The targets of an id -/

theorem filter_id_map {f : String → Target} (hf : ∀ name, (f name).id = name)
    {names : List String} (hnames : names.Nodup) (id : String) :
    (names.map f).filter (·.id = id) = if id ∈ names then [f id] else [] := by
  have hcomp : ((fun target : Target => decide (target.id = id)) ∘ f) =
      fun name => decide (name = id) := by
    funext name
    rw [Function.comp_apply, hf]
  rw [List.filter_map, hcomp, List.filter_eq, hnames.count]
  split <;> rfl

/-- A project has one target of an id for each list that the id is in. -/
theorem filter_id_ofProject (ht : t.root.Plain) (root : Path) (id : String) :
    (ofProject t root true true).filter (·.id = id) =
      (if id ∈ changeIds t root then [change root id] else []) ++
        if id ∈ specIds t root then [spec root id] else [] := by
  simp only [ofProject, if_true, List.filter_append]
  rw [filter_id_map (f := change root) (fun _ => rfl) (nodup_changeIds ht root),
    filter_id_map (f := spec root) (fun _ => rfl) (nodup_specIds ht root)]

/-! ## Resolution -/

theorem resolve_none_eq : resolve t root id none =
    match t.isFolder (changePath root id), t.isFile (specPath root id) with
    | true, true => .error (.ambiguous id)
    | true, false => .ok (change root id)
    | false, true => .ok (spec root id)
    | false, false =>
      if t.isFile ⟨id⟩ then .ok ⟨id, .spec, ⟨id⟩⟩
      else if t.isFolder ⟨id⟩ then .ok ⟨id, .change, ⟨id⟩⟩
      else .error (.unknown id) :=
  -- In parentheses, as Lean would unfold the paths to see whether it can rewrite by definition.
  (rfl)

theorem resolve_none_of_both (hchange : t.isFolder (changePath root id) = true)
    (hspec : t.isFile (specPath root id) = true) :
    resolve t root id none = .error (.ambiguous id) := by
  rw [resolve_none_eq, hchange, hspec]

/-- An item names a spec of a project exactly if it names no change there as well. -/
theorem resolve_none_eq_spec_iff (hspec : t.isFile (specPath root id) = true) :
    resolve t root id none = .ok (spec root id) ↔ t.isFolder (changePath root id) = false := by
  rw [resolve_none_eq, hspec]
  cases t.isFolder (changePath root id) with
  | true => exact iff_of_false nofun (Bool.false_ne_true ∘ Eq.symm)
  | false => exact iff_of_true rfl rfl

/-- An item names a change of a project exactly if it names no spec there as well. -/
theorem resolve_none_eq_change_iff :
    resolve t root id none = .ok (change root id) ↔
      t.isFolder (changePath root id) = true ∧ t.isFile (specPath root id) = false := by
  have hkind (p : Path) : (⟨id, .spec, p⟩ : Target) ≠ change root id :=
    fun h => nomatch congrArg kind h
  rw [resolve_none_eq]
  cases hchange : t.isFolder (changePath root id) with
  | true => cases t.isFile (specPath root id) <;> simp
  | false =>
      refine iff_of_false (fun h => ?_) (fun h => Bool.false_ne_true h.1)
      cases hspec : t.isFile (specPath root id) with
      | true =>
          rw [hspec] at h
          exact hkind _ (Except.ok.inj h)
      | false =>
          rw [hspec] at h
          dsimp only at h
          split at h
          · exact hkind _ (Except.ok.inj h)
          · split at h
            · -- The item is a path, and would be that of the change, which leads to no folder.
              rename_i hitem
              have hpath : ⟨id⟩ = changePath root id := congrArg path (Except.ok.inj h)
              rw [hpath, hchange] at hitem
              cases hitem
            · cases h

/-- What an id of a project comes to without a kind: the one target of that id, unless there are
two. A change is not found if its path cannot be followed, and what is found and not listed counts
as well: the archive, and what the list of the changes or that of the specs passes over. -/
structure ByBareId (t : FileTree) (root : Path) (id : String) : Prop where
  changeOnly : id ∈ changeIds t root → id ∉ specIds t root →
    (ofProject t root true true).filter (·.id = id) = [change root id] ∧
      (resolve t root id none = .ok (change root id) ↔
        (change root id).Reachable t root ∧ t.isFile (specPath root id) = false)
  specOnly : id ∈ specIds t root → id ∉ changeIds t root →
    (ofProject t root true true).filter (·.id = id) = [spec root id] ∧
      (resolve t root id none = .ok (spec root id) ↔ t.isFolder (changePath root id) = false)
  both : id ∈ changeIds t root → id ∈ specIds t root →
    resolve t root id none = if t.bar? (root.join "changes") id = none then .error (.ambiguous id)
      else .ok (spec root id)
  unlistedFile : id ∈ changeIds t root → id ∉ specIds t root →
    t.isFile (specPath root id) = true → t.Overlooks (root.join "specs") id
  unlistedFolder : id ∈ specIds t root → id ∉ changeIds t root →
    t.isFolder (changePath root id) = true →
      id = "archive" ∨ t.Overlooks (root.join "changes") id

/-- Every id that a project lists is resolved without a kind. -/
theorem resolve_by_bare_id (ht : t.root.Plain) (hs : t.root.Short) (root : Path) (id : String) :
    ByBareId t root id where
  changeOnly := by
    intro hchange hspec
    have htarget : change root id ∈ ofProject t root true true :=
      mem_ofProject_iff.mpr ⟨.change, id, hchange, rfl⟩
    have hfolder : t.isFolder (changePath root id) = true ↔ (change root id).Reachable t root :=
      fits_iff_of_mem_ofProject ht hs htarget
    refine ⟨?_, ?_⟩
    · rw [filter_id_ofProject ht, if_pos hchange, if_neg hspec, List.append_nil]
    · rw [resolve_none_eq_change_iff, hfolder]
  specOnly := by
    intro hspec hchange
    refine ⟨?_, resolve_none_eq_spec_iff (isFile_specPath hspec)⟩
    rw [filter_id_ofProject ht, if_neg hchange, if_pos hspec, List.nil_append]
  both := by
    intro hchange hspec
    have hfolder := isFolder_changePath_iff_of_both ht hs hchange hspec
    split
    · rename_i hbar
      exact resolve_none_of_both (hfolder.mpr hbar) (isFile_specPath hspec)
    · rename_i hbar
      rw [resolve_none_eq_spec_iff (isFile_specPath hspec), ← Bool.not_eq_true, hfolder]
      exact hbar
  unlistedFile := overlooks_of_isFile ht
  unlistedFolder := archive_or_overlooks_of_isFolder ht

/-! ## Projects of one entry among the changes and one spec -/

/-- A project with one entry among the changes and one base spec. -/
def projectOf (access : Access) (name : String) (entry : Node) (spec : String) : FileTree :=
  projectWith (.folder access [(name, entry)])
    (.folder .full [(spec, .folder .full [("spec.md", .file (.ok "text".toUTF8))])])

theorem plain_and_short_projectOf {access : Access} {name spec : String} {entry : Node}
    (hname : Path.PlainName name ∧ name.utf8ByteSize ≤ FileTree.nameLimit)
    (hspec : Path.PlainName spec ∧ spec.utf8ByteSize ≤ FileTree.nameLimit)
    (hentry : entry.Plain ∧ entry.Short) :
    (projectOf access name entry spec).root.Plain ∧
      (projectOf access name entry spec).root.Short :=
  plain_and_short_projectWith ⟨.singleton hname.1 hentry.1, .singleton hname.2 hentry.2⟩
    ⟨.singleton hspec.1 (.singleton plainName_specFile (.file _)),
      .singleton hspec.2 (.singleton (by decide +kernel) (.file _))⟩

/-- A change and a spec of two ids are resolved, and of one id they are ambiguous. A spec is
resolved if the change of the same id cannot be looked up, and not if a link is found in its
place. -/
theorem resolve_by_bare_id_of_projects :
    let two := projectOf .full "add" (.folder .full []) "base"
    let one := projectOf .full "auth" (.folder .full []) "auth"
    let barred := projectOf unsearchable "auth" (.folder .full []) "auth"
    let linked := projectOf .full "auth" (.link ⟨"../specs/auth"⟩) "auth"
    (two.root.Plain ∧ two.root.Short) ∧ (one.root.Plain ∧ one.root.Short) ∧
      (barred.root.Plain ∧ barred.root.Short) ∧ (linked.root.Plain ∧ linked.root.Short) ∧
      resolve two ⟨"p"⟩ "add" none = .ok (change ⟨"p"⟩ "add") ∧
      resolve two ⟨"p"⟩ "base" none = .ok (spec ⟨"p"⟩ "base") ∧
      resolve one ⟨"p"⟩ "auth" none = .error (.ambiguous "auth") ∧
      resolve barred ⟨"p"⟩ "auth" none = .ok (spec ⟨"p"⟩ "auth") ∧
      resolve linked ⟨"p"⟩ "auth" none ≠ .ok (spec ⟨"p"⟩ "auth") := by
  intro two one barred linked
  have htwo : two.root.Plain ∧ two.root.Short :=
    plain_and_short_projectOf (by decide +kernel) (by decide +kernel) ⟨.empty _, .empty _⟩
  have hone : one.root.Plain ∧ one.root.Short :=
    plain_and_short_projectOf (by decide +kernel) (by decide +kernel) ⟨.empty _, .empty _⟩
  have hbarred : barred.root.Plain ∧ barred.root.Short :=
    plain_and_short_projectOf (by decide +kernel) (by decide +kernel) ⟨.empty _, .empty _⟩
  have hlinked : linked.root.Plain ∧ linked.root.Short :=
    plain_and_short_projectOf (by decide +kernel) (by decide +kernel) ⟨.link _, .link _⟩
  have hadd := (resolve_by_bare_id htwo.1 htwo.2 ⟨"p"⟩ "add").changeOnly
    (by decide +kernel) (by decide +kernel)
  have hbase := (resolve_by_bare_id htwo.1 htwo.2 ⟨"p"⟩ "base").specOnly
    (by decide +kernel) (by decide +kernel)
  have hauth := (resolve_by_bare_id hone.1 hone.2 ⟨"p"⟩ "auth").both
    (by decide +kernel) (by decide +kernel)
  have hmissed := (resolve_by_bare_id hbarred.1 hbarred.2 ⟨"p"⟩ "auth").both
    (by decide +kernel) (by decide +kernel)
  have hfound := (resolve_by_bare_id hlinked.1 hlinked.2 ⟨"p"⟩ "auth").specOnly
    (by decide +kernel) (by decide +kernel)
  rw [if_pos (by decide +kernel)] at hauth
  rw [if_neg (by decide +kernel)] at hmissed
  exact ⟨htwo, hone, hbarred, hlinked,
    hadd.2.mpr (by decide +kernel),
    hbase.2.mpr (by decide +kernel), hauth, hmissed, mt hfound.2.mp (by decide +kernel)⟩

/-- The id of a spec alone does not stand for it if it is that of the archive, or if a link is found
for a change. The id of a change alone does not stand for it if its path is too long, or if the
changes may not be searched, and then an id of both is not ambiguous. -/
theorem not_forall_resolve_listed :
    (¬ ∀ (t : FileTree) (root : Path) (id : String), t.root.Plain → t.root.Short →
      t.root.Unlinked → id ∈ specIds t root → id ∉ changeIds t root →
        resolve t root id none = .ok (spec root id)) ∧
    (¬ ∀ (t : FileTree) (root : Path) (id : String), t.root.Plain → t.root.Short →
      id ≠ "archive" → id ∈ specIds t root → id ∉ changeIds t root →
        resolve t root id none = .ok (spec root id)) ∧
    (¬ ∀ (t : FileTree) (root : Path) (id : String), t.root.Plain → t.root.Short →
      t.bar? (root.join "changes") id = none → id ∈ changeIds t root → id ∉ specIds t root →
        resolve t root id none = .ok (change root id)) ∧
    (¬ ∀ (t : FileTree) (root : Path) (id : String), t.root.Plain → t.root.Short →
      (changePath root id).withinLimit = true → id ∈ changeIds t root → id ∉ specIds t root →
        resolve t root id none = .ok (change root id)) ∧
    ¬ ∀ (t : FileTree) (root : Path) (id : String), t.root.Plain → t.root.Short →
      id ∈ changeIds t root → id ∈ specIds t root →
        resolve t root id none = .error (.ambiguous id) := by
  refine ⟨fun h => ?_, fun h => ?_, fun h => ?_, fun h => ?_, fun h => ?_⟩
  · let t := projectOf .full "archive" (.folder .full []) "archive"
    have ht : t.root.Plain ∧ t.root.Short :=
      plain_and_short_projectOf (by decide +kernel) (by decide +kernel) ⟨.empty _, .empty _⟩
    have hu : t.root.Unlinked := by
      refine .singleton (.folder _ _ ?_)
      simpa using ⟨.singleton (.folder _ _ (by simp)), .singleton (.singleton (.file _))⟩
    have hspec := h t ⟨"p"⟩ "archive" ht.1 ht.2 hu (by decide +kernel) (by decide +kernel)
    exact absurd ((resolve_none_eq_spec_iff (by decide +kernel)).mp hspec) (by decide +kernel)
  · let t := projectOf .full "auth" (.link ⟨"../specs/auth"⟩) "auth"
    have ht : t.root.Plain ∧ t.root.Short :=
      plain_and_short_projectOf (by decide +kernel) (by decide +kernel) ⟨.link _, .link _⟩
    have hspec := h t ⟨"p"⟩ "auth" ht.1 ht.2 (by decide) (by decide +kernel) (by decide +kernel)
    exact absurd ((resolve_none_eq_spec_iff (by decide +kernel)).mp hspec) (by decide +kernel)
  · obtain ⟨root, hids, hbar, hlong⟩ : ∃ root, changeIds (xOnly .full) root = ["x"] ∧
        (xOnly .full).bar? (root.join "changes") "x" = none ∧
        (changePath root "x").withinLimit = false := ⟨_, changeIds_xOnly rfl⟩
    have hid : "x" ∈ changeIds (xOnly .full) root := hids ▸ List.mem_singleton_self "x"
    have hspecs : "x" ∉ specIds (xOnly .full) root := by
      intro hspec
      have hlimit := FileTree.withinLimit_of_isFile (isFile_specPath hspec)
      rw [withinLimit_changePath (by decide +kernel) hlimit] at hlong
      cases hlong
    have hchange := h (xOnly .full) root "x" (plain_xOnly _) (short_xOnly _) hbar hid hspecs
    have hfolder := (resolve_none_eq_change_iff.mp hchange).1
    rw [isFolder_changePath_iff (plain_xOnly _) (short_xOnly _) hid, hlong] at hfolder
    cases hfolder.1
  · have hchange := h (xOnly unsearchable) ⟨"p"⟩ "x" (plain_xOnly _) (short_xOnly _)
      (by decide +kernel) (by decide +kernel) (by decide +kernel)
    exact absurd (resolve_none_eq_change_iff.mp hchange).1 (by decide +kernel)
  · let t := projectOf unsearchable "auth" (.folder .full []) "auth"
    have ht : t.root.Plain ∧ t.root.Short :=
      plain_and_short_projectOf (by decide +kernel) (by decide +kernel) ⟨.empty _, .empty _⟩
    have hambiguous := h t ⟨"p"⟩ "auth" ht.1 ht.2 (by decide +kernel) (by decide +kernel)
    have hspec : resolve t ⟨"p"⟩ "auth" none = .ok (spec ⟨"p"⟩ "auth") :=
      (resolve_none_eq_spec_iff (by decide +kernel)).mpr (by decide +kernel)
    exact nomatch hambiguous.symm.trans hspec

end SpecReview.CommandLine.Target
