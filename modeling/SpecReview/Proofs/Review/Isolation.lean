import SpecReview.Proofs.Review.Verdict
import SpecReview.Proofs.Tree.BaseSpecs
import SpecReview.Proofs.Tree.Beneath

/-! # What the review of a change depends on

The review of a change looks at what is beneath its specs folder, and reads the base specs that its
delta files are for. Two trees that do not differ there give one report. Whatever else there is
can differ: other changes, other files of the change, base specs that no delta file is for. -/

namespace SpecReview.Change

open SpecReview.FileTree SpecReview.Path

variable {t t' : FileTree} {change : Path}

/-- Two trees do not differ in the specs of a change, nor in what is read as their base specs. -/
structure Agree (t t' : FileTree) (change : Path) : Prop where
  specs : t.access? (change.join "specs") = t'.access? (change.join "specs")
  beneath : ∀ name names, t.look (change.join "specs") (name :: names) =
    t'.look (change.join "specs") (name :: names)
  bases : ∀ file ∈ t.deltaFiles (change.join "specs"),
    t.read (basePath (Project.baseSpecs change) file) =
      t'.read (basePath (Project.baseSpecs change) file)

namespace Agree

variable (h : Agree t t' change)
include h

theorem isFolder_eq : t.isFolder (change.join "specs") = t'.isFolder (change.join "specs") := by
  rw [isFolder_eq_isSome_access?, isFolder_eq_isSome_access?, h.specs]

/-- The specs are folders that are alike, if they are folders. -/
theorem exists_alike (hfolder : t.isFolder (change.join "specs") = true) :
    ∃ n n', t.node? (change.join "specs") = some n ∧ t'.node? (change.join "specs") = some n' ∧
      n.Alike n' := by
  have hexists {t : FileTree} (hfolder : t.isFolder (change.join "specs") = true) :
      ∃ access es, t.node? (change.join "specs") = some (.folder access es) := by
    obtain ⟨place, hplace, access, es, hes⟩ := isFolder_iff.mp hfolder
    exact ⟨access, es, node?_eq_some_iff.mpr ⟨place, hplace, hes⟩⟩
  obtain ⟨access, es, hes⟩ := hexists hfolder
  obtain ⟨access', es', hes'⟩ := hexists (h.isFolder_eq ▸ hfolder)
  refine ⟨_, _, hes, hes', fun names => ?_⟩
  cases names with
  | nil =>
      have haccess := h.specs
      rw [access?, access?, hes, hes', Option.some.injEq] at haccess
      rw [haccess]
      rfl
  | cons name names =>
      have hlook := h.beneath name names
      rwa [look, look, hes, hes'] at hlook

/-- The same delta files are found. -/
theorem deltaFiles_eq (ht : t.root.Plain) (ht' : t'.root.Plain)
    (hfolder : t.isFolder (change.join "specs") = true) :
    t.deltaFiles (change.join "specs") = t'.deltaFiles (change.join "specs") := by
  obtain ⟨n, n', hn, hn', halike⟩ := h.exists_alike hfolder
  have hhomes := halike.homes_eq (plain_of_node? ht hn) (plain_of_node? ht' hn') specFile
  simp only [deltaFiles, hn, hn', hhomes]

/-- A delta file that is found reads the same. -/
theorem read_eq (ht : t.root.Plain) (hfolder : t.isFolder (change.join "specs") = true)
    {file : DeltaFile} (hfile : file ∈ t.deltaFiles (change.join "specs")) :
    t.read file.path = t'.read file.path := by
  obtain ⟨m, names, content, rfl, hnames, hm, hcontent⟩ := exists_names_of_mem_deltaFiles ht hfile
  obtain ⟨n, n', hn, hn', halike⟩ := h.exists_alike hfolder
  cases hm.symm.trans hn
  have hcontent' : n'.at? (names ++ [specFile]) = some (.file content) := by
    rwa [← Node.shapeAt?_eq_file_iff, ← halike, Node.shapeAt?_eq_file_iff]
  rw [path_deltaFileIn, read_foldl_join hn hnames hcontent (by simp),
    read_foldl_join hn' hnames hcontent' (by simp), halike.barrier?_eq]

theorem report_eq (ht : t.root.Plain) (ht' : t'.root.Plain) (strict : Bool) :
    report t strict change = report t' strict change := by
  rw [Change.report_eq, Change.report_eq, ← h.isFolder_eq]
  by_cases hfolder : t.isFolder (change.join "specs") = false
  · rw [if_pos hfolder, if_pos hfolder]
  · have hfolder : t.isFolder (change.join "specs") = true := by simpa using hfolder
    have hreadings : readings t change = readings t' change := by
      rw [readings, readings, ← h.deltaFiles_eq ht ht' hfolder]
      refine mapM_congr fun file hfile => ?_
      rw [readFile, readFile, readOptional, readOptional, h.read_eq ht hfolder hfile,
        h.bases file hfile]
    rw [hreadings, h.deltaFiles_eq ht ht' hfolder]

end Agree

/-! ## Changes of a project -/

/-- Two trees do not differ in the specs of a change of a project, nor in what is read beneath the
specs of the project as the base specs that its delta files are for. -/
structure AgreeFrom (t t' : FileTree) (root : Path) (id : String) : Prop where
  specs : ∀ names, t.look ((Project.changePath root id).join "specs") names =
    t'.look ((Project.changePath root id).join "specs") names
  bases : ∀ names content,
    t.look ((Project.changePath root id).join "specs") (names ++ [specFile]) =
      some (.file content) →
        t.readFrom root ("specs" :: (names ++ [specFile])) =
          t'.readFrom root ("specs" :: (names ++ [specFile]))

variable {root : Path} {id : String} {names : List String}

/-- The base specs of a change are those of the project that the change is listed in. -/
theorem exists_baseSpecs_changePath (hroot : root.text ≠ "") (hid : PlainName id) :
    ∃ q : Path, Project.baseSpecs (Project.changePath root id) = q.join "specs" ∧ q.text ≠ "" ∧
      q.spine = root.spine ∧ q.isAbsolute = root.isAbsolute ∧
        ∃ n, q.segments = q.spine.reverse ++ List.replicate n [] := by
  have hchanges : PlainName "changes" := by decide +kernel
  obtain ⟨p, hp, hptext, hpspine, -⟩ :=
    exists_parent?_join (join_text_ne hroot "changes") hid
  obtain ⟨q, hq, hqtext, hqspine, habsolute, hn⟩ := exists_parent?_join hroot hchanges
  refine ⟨q, ?_, hqtext, hqspine, habsolute, hn⟩
  have hproject : (p.parent?.filter (!·.text.isEmpty)) = some q := by
    simp [parent?_congr hpspine, hq, hqtext]
  rw [Project.baseSpecs, Project.changePath, hp, Option.bind_some, hproject]

/-- Where a change is found, its base specs lead on from where the root of the project leads. -/
theorem exists_follow_baseSpecs (hroot : root.text ≠ "") (hid : PlainName id)
    (hfolder : t.isFolder (Project.changePath root id) = true) :
    (Project.baseSpecs (Project.changePath root id)).text ≠ "" ∧ ∃ spot, t.follow root = .ok spot ∧
      t.follow (Project.baseSpecs (Project.changePath root id)) =
        t.walk spot ["specs".toList] := by
  obtain ⟨place, hplace, -⟩ := isFolder_iff.mp hfolder
  obtain ⟨q, hbases, hqtext, hqspine, habsolute, n, hn⟩ := exists_baseSpecs_changePath hroot hid
  -- The change is found, so that the root of the project leads to a folder.
  obtain ⟨-, links, hchange⟩ := follow_of_locate hplace
  rw [Project.changePath, follow_join_name (join_text_ne hroot _) hid, bind_eq_ok_iff] at hchange
  obtain ⟨changes, hchanges, -⟩ := hchange
  rw [follow_join_name hroot (by decide +kernel), bind_eq_ok_iff] at hchanges
  obtain ⟨spot, hspot, hstep⟩ := hchanges
  have hq : t.follow q = .ok spot := by
    refine follow_of_walk_spine hn ?_ (folderAt_of_step hstep)
    have hstart : t.start q = t.start root := by rw [start, start, habsolute]
    rw [hqspine, hstart]
    exact walk_spine_of_follow hspot
  have hspecs : split "specs".toList = ["specs".toList] := by decide
  refine ⟨hbases ▸ join_text_ne hqtext "specs", spot, hspot, ?_⟩
  rw [hbases, follow_join hqtext (by decide), hq, hspecs]
  rfl

/-- The base spec for a delta file of a change is read beneath the specs of the project. -/
theorem read_basePath (hroot : root.text ≠ "") (hid : PlainName id)
    (hfolder : t.isFolder (Project.changePath root id) = true) (specs : Path)
    (hnames : ∀ w ∈ names ++ [specFile], PlainName w) :
    let base := basePath (Project.baseSpecs (Project.changePath root id)) (deltaFileIn specs names)
    t.read base =
      if base.withinLimit then t.readFrom root ("specs" :: (names ++ [specFile]))
      else .error .nameTooLong := by
  intro base
  by_cases hlimit : base.withinLimit = true
  · obtain ⟨htext, spot, hspot, hbases⟩ := exists_follow_baseSpecs hroot hid hfolder
    have hfolders : ∀ w ∈ names, PlainName w := fun w hw => hnames w (List.mem_append_left _ hw)
    have hbaseText : base.text ≠ "" := join_text_ne (join_text_ne htext _) _
    have hfollow : t.follow base =
        t.walk spot (["specs".toList] ++ (names ++ [specFile]).map String.toList) := by
      rw [Project.follow_basePath htext (isAbsolute_capability specs hfolders), hbases, walk_append]
      exact bind_congr fun mid => walk_capability specs mid hfolders
    rw [if_pos hlimit, FileTree.read, locate_eq_follow hlimit hbaseText, hfollow, readFrom, hspot,
      List.map_cons, List.singleton_append]
    change _ = t.walk spot ("specs".toList :: (names ++ [specFile]).map String.toList) >>= _
    cases t.walk spot ("specs".toList :: (names ++ [specFile]).map String.toList) <;> rfl
  · rw [if_neg hlimit, FileTree.read, locate_of_limit_lt (by simpa using hlimit)]
    rfl

theorem AgreeFrom.agree (h : AgreeFrom t t' root id) (ht : t.root.Plain) (hroot : root.text ≠ "")
    (hid : PlainName id) : Agree t t' (Project.changePath root id) := by
  have htext : (Project.changePath root id).text ≠ "" := join_text_ne (join_text_ne hroot _) _
  have hfolder {t : FileTree} {n : Node}
      (hn : t.node? ((Project.changePath root id).join "specs") = some n) :
      t.isFolder (Project.changePath root id) = true := by
    obtain ⟨place, hplace, -⟩ := node?_eq_some_iff.mp hn
    exact isFolder_of_locate_join htext (by decide +kernel) hplace
  refine ⟨?_, fun name names => h.specs (name :: names), ?_⟩
  · have haccess (t : FileTree) (p : Path) : t.access? p =
        (t.look p []).bind fun shape => match shape with
          | .folder access => some access
          | _ => none := by
      rw [access?, look]
      cases t.node? p with
      | none => rfl
      | some n => cases n <;> rfl
    rw [haccess, haccess, h.specs]
  · intro file hfile
    obtain ⟨n, names, content, rfl, hnames, hn, hcontent⟩ := exists_names_of_mem_deltaFiles ht hfile
    have hlook : t.look ((Project.changePath root id).join "specs") (names ++ [specFile]) =
        some (.file content) := by
      rw [look, hn]
      exact Node.shapeAt?_eq_file_iff.mpr hcontent
    obtain ⟨n', hn', -⟩ := Option.bind_eq_some_iff.mp ((h.specs _).symm.trans hlook)
    rw [read_basePath hroot hid (hfolder hn) _ hnames,
      read_basePath hroot hid (hfolder hn') _ hnames, h.bases names content hlook]

/-- The review of a change depends on its specs and on what is read as their base specs. In a
project these are the base specs of the capabilities that the change has delta files for. -/
theorem report_isolated (ht : t.root.Plain) (ht' : t'.root.Plain) (strict : Bool) :
    (∀ change, Agree t t' change → report t strict change = report t' strict change) ∧
      ∀ root id, root.text ≠ "" → PlainName id → AgreeFrom t t' root id →
        report t strict (Project.changePath root id) =
          report t' strict (Project.changePath root id) :=
  ⟨fun _ h => h.report_eq ht ht' strict,
    fun _ _ hroot hid h => (h.agree ht hroot hid).report_eq ht ht' strict⟩

/-- Two changes that add one requirement. Each is reviewed as if it were alone, and as if there were
no base spec of another capability, which could not be read. -/
theorem report_isolated_of_two_changes :
    let text := "## ADDED Requirements\n### Requirement: A\nMUST\n#### Scenario: b"
    let file := Node.folder .full [("spec.md", .file (.ok text.toUTF8))]
    let other := Node.folder .full [("spec.md", .file (.error "Permission denied (os error 13)"))]
    let change := Node.folder .full [("specs", .folder .full [("auth", file)])]
    let alone : FileTree := ⟨.folder .full [("changes", .folder .full [("x", change)])], []⟩
    let both : FileTree := ⟨.folder .full [
      ("changes", .folder .full [("x", change), ("y", change)]),
      ("specs", .folder .full [("other", other)])], []⟩
    alone.root.Plain ∧ both.root.Plain ∧ AgreeFrom alone both ⟨"."⟩ "x" ∧
      Agree alone both ⟨"./changes/x"⟩ ∧
        report alone true ⟨"./changes/x"⟩ = report both true ⟨"./changes/x"⟩ ∧
          report both true ⟨"./changes/x"⟩ = .ok ⟨[]⟩ := by
  intro text file other change alone both
  have hfile : file.Plain := .singleton plainName_specFile (.file _)
  have hspecs : (Node.folder .full [("auth", file)]).Plain := .singleton (by decide +kernel) hfile
  have hchange : change.Plain := .singleton (by decide +kernel) hspecs
  have halone : alone.root.Plain :=
    .singleton (by decide +kernel) (.singleton (by decide +kernel) hchange)
  have hboth : both.root.Plain := by
    have hchanges : (Node.folder .full [("x", change), ("y", change)]).Plain :=
      .folder _ _ (by decide +kernel) (by decide +kernel) (by simpa using hchange)
    refine .folder _ _ (by decide +kernel) (by decide +kernel) ?_
    simp only [List.forall_mem_cons, List.not_mem_nil, false_imp_iff, implies_true, and_true]
    exact ⟨hchanges, .singleton (by decide +kernel) (.singleton plainName_specFile (.file _))⟩
  have hnode {t : FileTree}
      (hplace : t.locate ⟨"./changes/x/specs"⟩ = .ok ["changes", "x", "specs"])
      (hat : t.root.at? ["changes", "x", "specs"] = some (.folder .full [("auth", file)])) :
      t.node? ((Project.changePath ⟨"."⟩ "x").join "specs") =
        some (.folder .full [("auth", file)]) :=
    node?_eq_some_iff.mpr ⟨_, hplace, hat⟩
  have hfrom : AgreeFrom alone both ⟨"."⟩ "x" := by
    have hspecsAlone := @hnode alone (eq_ok_of_toOption (by decide +kernel)) rfl
    have hspecsBoth := @hnode both (eq_ok_of_toOption (by decide +kernel)) rfl
    refine ⟨fun names => by rw [look, look, hspecsAlone, hspecsBoth],
      fun names content hcontent => ?_⟩
    rw [look, hspecsAlone, Option.bind_some, Node.shapeAt?_eq_file_iff] at hcontent
    have hauth : names = ["auth"] := by
      have hwhere : ∀ ws m, (Node.folder .full [("auth", file)]).at? ws = some m →
          ws ∈ [[], ["auth"], ["auth", specFile]] := by
        refine Node.forall_at?_folder (by simp) (List.forall_mem_singleton.mpr ?_)
        refine Node.forall_at?_folder (by simp) (List.forall_mem_singleton.mpr ?_)
        exact Node.forall_at?_file (by simp [specFile])
      have hws := hwhere _ _ hcontent
      simp only [List.mem_cons, List.not_mem_nil, or_false] at hws
      rcases hws with h | h | (h : names ++ [specFile] = ["auth"] ++ [specFile])
      · simp at h
      · simp [specFile, List.append_eq_singleton_iff] at h
      · exact List.append_cancel_right h
    rw [hauth]
    decide +kernel
  have hagree : Agree alone both ⟨"./changes/x"⟩ :=
    hfrom.agree halone (by decide) (by decide +kernel)
  have hreport :=
    (report_isolated halone hboth true).2 ⟨"."⟩ "x" (by decide) (by decide +kernel) hfrom
  have hvalid : report alone true ⟨"./changes/x"⟩ = .ok ⟨[]⟩ :=
    eq_ok_of_toOption (by decide +kernel)
  exact ⟨halone, hboth, hfrom, hagree, (report_isolated halone hboth true).1 _ hagree,
    hreport.symm.trans hvalid⟩

end SpecReview.Change
