import SpecReview.CommandLine.Run
import SpecReview.Proofs.Except
import SpecReview.Proofs.Review.Verdict
import SpecReview.Proofs.Tree.Ids
import SpecReview.Proofs.Tree.Slashes

/-! # Validating everything in a project

A validation of everything comes to one result for each id, and that is what a validation of the id
by itself comes to. The two find their targets in different ways: one lists folders, the other
follows a path. They part where the path of a listed folder is too long to follow, and where the
system lists a folder and does not look its name up. -/

namespace SpecReview

/-- Where no folder is found for a change, no specs are found in it. -/
theorem Change.report_of_isFolder_eq_false {t : FileTree} {strict : Bool} {change : Path}
    (hne : change.text ≠ "") (h : t.isFolder change = false) :
    report t strict change = .error (.noSpecsFolder (change.join "specs")) := by
  have hspecs : t.isFolder (change.join "specs") = false := by
    rw [← Bool.not_eq_true]
    intro hfolder
    obtain ⟨place, hplace, -⟩ := FileTree.isFolder_iff.mp hfolder
    have hname : Path.PlainName "specs" := by decide +kernel
    rw [FileTree.isFolder_of_locate_join hne hname hplace] at h
    cases h
  rw [report_eq, if_pos hspecs]

namespace CommandLine

variable {t : FileTree} {color strict : Bool} {root : Path} {settings : Settings}
  {target : Target} {o : ValidateOptions} {rs : List Result}

/-! ## Targets -/

namespace Target

/-- The ids of a kind in a project. -/
def ids (t : FileTree) (root : Path) : Kind → List String
  | .change => Project.changeIds t root
  | .spec => Project.specIds t root

theorem mem_ofProject_iff :
    target ∈ ofProject t root true true ↔
      ∃ kind, ∃ id ∈ ids t root kind, named root id kind = target := by
  simp only [ofProject, if_true, List.mem_append, List.mem_map]
  constructor
  · rintro (⟨id, hid, h⟩ | ⟨id, hid, h⟩)
    · exact ⟨.change, id, hid, h⟩
    · exact ⟨.spec, id, hid, h⟩
  · rintro ⟨kind, id, hid, h⟩
    cases kind with
    | change => exact Or.inl ⟨id, hid, h⟩
    | spec => exact Or.inr ⟨id, hid, h⟩

/-- No two targets of a project have one kind and one id. -/
theorem nodup_ofProject (ht : t.root.Plain) (root : Path) :
    ((ofProject t root true true).map fun target => (target.kind, target.id)).Nodup := by
  have hpair (kind : Kind) : (fun id : String => (kind, id)).Injective :=
    fun _ _ h => (Prod.mk.inj h).2
  have hchanges : ((Project.changeIds t root).map (Kind.change, ·)).Nodup :=
    (Project.nodup_changeIds ht root).map (hpair .change)
  have hspecs : ((Project.specIds t root).map (Kind.spec, ·)).Nodup :=
    (Project.nodup_specIds ht root).map (hpair .spec)
  simp only [ofProject, if_true, List.map_append, List.map_map]
  refine hchanges.append hspecs fun x hchange hspec => ?_
  obtain ⟨_, -, rfl⟩ := List.mem_map.mp hchange
  obtain ⟨_, -, h⟩ := List.mem_map.mp hspec
  cases h

/-- An id names its own target exactly if the path of that leads to what it should. -/
theorem resolve_named_iff {item : String} {kind : Kind} :
    resolve t root item (some kind) = .ok (named root item kind) ↔
      fits t (named root item kind).path kind = true := by
  have hresolve : resolve t root item (some kind) =
      if fits t (named root item kind).path kind then .ok (named root item kind)
      else if fits t ⟨item⟩ kind then .ok ⟨item, kind, ⟨item⟩⟩
      else .error (.noneNamed kind item) := rfl
  rw [hresolve]
  by_cases hfits : fits t (named root item kind).path kind = true
  · simp only [hfits, if_true]
  · rw [if_neg hfits]
    refine iff_of_false (fun h => ?_) hfits
    split at h
    · rename_i hitem
      have hpath : ⟨item⟩ = (named root item kind).path := congrArg Target.path (Except.ok.inj h)
      exact hfits (hpath ▸ hitem)
    · cases h

/-- Whether the path of a target of a project can be followed: it is not too long, and for a change
the system looks the id up among the changes. -/
def Reachable (t : FileTree) (root : Path) (target : Target) : Prop :=
  target.path.withinLimit = true ∧
    (target.kind = .change → t.bar? (root.join "changes") target.id = none)

instance : Decidable (target.Reachable t root) := inferInstanceAs (Decidable (_ ∧ _))

theorem fits_iff_of_mem_ofProject (ht : t.root.Plain) (hs : t.root.Short)
    (h : target ∈ ofProject t root true true) :
    fits t target.path target.kind = true ↔ target.Reachable t root := by
  obtain ⟨kind, id, hid, rfl⟩ := mem_ofProject_iff.mp h
  cases kind with
  | change =>
      refine (Project.isFolder_changePath_iff ht hs hid).trans (and_congr_right fun _ => ?_)
      exact ⟨fun hbar _ => hbar, fun hbar => hbar rfl⟩
  | spec =>
      have hfile : t.isFile (Project.specPath root id) = true := Project.isFile_specPath hid
      exact iff_of_true hfile ⟨FileTree.withinLimit_of_isFile hfile, fun hkind => nomatch hkind⟩

theorem resolve_iff_of_mem_ofProject (ht : t.root.Plain) (hs : t.root.Short)
    (h : target ∈ ofProject t root true true) :
    resolve t root target.id (some target.kind) = .ok target ↔ target.Reachable t root := by
  rw [← fits_iff_of_mem_ofProject ht hs h]
  obtain ⟨kind, id, -, rfl⟩ := mem_ofProject_iff.mp h
  cases kind <;> exact resolve_named_iff

end Target

/-! ## Results -/

theorem mem_validateAll_iff {targets : List Target} {r : Result} :
    r ∈ validateAll t settings strict targets ↔
      r.target ∈ targets ∧ r.report = r.target.report t settings strict := by
  obtain ⟨target, report⟩ := r
  simp [validateAll, eq_comm]

theorem map_target_validateAll (targets : List Target) :
    (validateAll t settings strict targets).map (·.target) = targets := by
  rw [validateAll, List.map_map]
  exact List.map_id targets

/-- The results that have passed, and those that have failed, are all of them. -/
theorem countP_passed_add_countP_failed (rs : List Result) :
    rs.countP (!·.failed) + rs.countP (·.failed) = rs.length := by
  rw [List.length_eq_countP_add_countP (·.failed), Nat.add_comm]
  simp

theorem length_sub_countP_failed (rs : List Result) :
    rs.length - rs.countP (·.failed) = rs.countP (!·.failed) := by
  have htotal := countP_passed_add_countP_failed rs
  omega

/-- How many results there are, how many have passed and how many have failed. -/
def totalsJson (rs : List Result) : Json.Value :=
  .record [("total", .number rs.length), ("passed", .number (rs.countP (!·.failed))),
    ("failed", .number (rs.countP (·.failed)))]

def totalsText (rs : List Result) : String :=
  "Validated " ++ toString rs.length ++ " item(s): " ++ toString (rs.countP (!·.failed)) ++
    " passed, " ++ toString (rs.countP (·.failed)) ++ " failed"

theorem resultsJson_eq (rs : List Result) :
    resultsJson rs = Json.sortFields
      (.record [("items", .list (rs.map resultJson)), ("summary", totalsJson rs)]) := by
  rw [totalsJson, ← length_sub_countP_failed]
  rfl

theorem resultsText_eq (rs : List Result) :
    resultsText color strict rs = String.join (rs.map (resultText color strict)) ++ "\n" ++
      (if rs.countP (·.failed) = 0 then Tint.success else Tint.caution).apply color
        (totalsText rs) ++ "\n" := by
  unfold resultsText totalsText
  dsimp only
  rw [length_sub_countP_failed]

theorem output_manyOutcome_of_json (rs : List Result) :
    (manyOutcome color strict true rs).output =
      Json.render (if rs.isEmpty then .compact else .spread) 0 (resultsJson rs) ++ "\n" := by
  cases rs <;> rfl

theorem output_manyOutcome_of_text (h : rs ≠ []) :
    (manyOutcome color strict false rs).output = resultsText color strict rs := by
  cases rs with
  | nil => exact absurd rfl h
  | cons r rs => rfl

theorem status_manyOutcome_eq_one_iff {json : Bool} :
    (manyOutcome color strict json rs).status = 1 ↔ 0 < rs.countP (·.failed) := by
  simp [manyOutcome]

/-! ## One target by itself -/

/-- The options to validate one target by its id in the same way. -/
def ValidateOptions.only (o : ValidateOptions) (target : Target) : ValidateOptions :=
  { o with
    item := some target.id
    kind := some target.kind
    all := false
    changes := false
    specs := false }

/-- Whether a review is strict. -/
def ValidateOptions.isStrict (o : ValidateOptions) (t : FileTree) (root : Path) : Bool :=
  o.strict || (Settings.ofProject t root).strict

/-- What the validation of one target leaves behind. -/
def Result.outcome (color strict json : Bool) (r : Result) : Outcome :=
  match r.report with
  | .ok report => oneOutcome color strict json r.target report
  | .error e => ⟨1, "", (Failure.unreviewed r.target e).render⟩

theorem Result.status_outcome_eq_one_iff {json : Bool} {r : Result} :
    (r.outcome color strict json).status = 1 ↔ r.failed = true := by
  rw [outcome, failed]
  cases r.report with
  | error e => simp
  | ok report => cases h : report.isValid <;> simp [oneOutcome, h]

/-- A target that its id names is validated by its id. -/
theorem validate_only {r : Result}
    (hr : r.report = r.target.report t (Settings.ofProject t root) (o.isStrict t root))
    (h : Target.resolve t root r.target.id (some r.target.kind) = .ok r.target) :
    validate t color root (o.only r.target) = r.outcome color (o.isStrict t root) o.json := by
  have hstrict : ((o.only r.target).strict || (Settings.ofProject t root).strict) =
      o.isStrict t root := rfl
  simp only [validate, hstrict, validateOne, Result.outcome, hr]
  simp only [ValidateOptions.only, h, Bool.or_self, Bool.false_eq_true, if_false, bind, Except.bind]
  cases r.target.report t (Settings.ofProject t root) (o.isStrict t root) <;> rfl

/-! ## Everything -/

/-- The results of validating everything in a project. -/
def results (t : FileTree) (root : Path) (o : ValidateOptions) : List Result :=
  validateAll t (Settings.ofProject t root) (o.isStrict t root) (Target.ofProject t root true true)

/-- What a validation of everything has to do with the validations of the single targets. A target
with a path that cannot be followed is not found by its id: it is a change, and it has failed. -/
structure ByTarget (t : FileTree) (color : Bool) (root : Path) (o : ValidateOptions) : Prop where
  targets : (results t root o).map (·.target) =
    (Project.changeIds t root).map (Target.change root) ++
      (Project.specIds t root).map (Target.spec root)
  distinct : ((results t root o).map fun r => (r.target.kind, r.target.id)).Nodup
  report : ∀ r ∈ results t root o,
    r.report = r.target.report t (Settings.ofProject t root) (o.isStrict t root)
  resolved : ∀ r ∈ results t root o,
    Target.resolve t root r.target.id (some r.target.kind) = .ok r.target ↔
      r.target.Reachable t root
  single : ∀ r ∈ results t root o, r.target.Reachable t root →
    validate t color root (o.only r.target) = r.outcome color (o.isStrict t root) o.json
  failed : ∀ r ∈ results t root o, r.target.Reachable t root →
    (r.failed = true ↔ (validate t color root (o.only r.target)).status = 1)
  unreachable : ∀ r ∈ results t root o, ¬ r.target.Reachable t root →
    r.target.kind = .change ∧
      r.report = .error (.noSpecsFolder (r.target.path.join "specs")) ∧ r.failed = true
  total : (results t root o).countP (!·.failed) + (results t root o).countP (·.failed) =
    (results t root o).length
  json : o.json = true → (validate t color root o).output =
    Json.render (if (results t root o).isEmpty then .compact else .spread) 0 (Json.sortFields
      (.record [("items", .list ((results t root o).map resultJson)),
        ("summary", totalsJson (results t root o))])) ++ "\n"
  text : o.json = false → results t root o ≠ [] → (validate t color root o).output =
    String.join ((results t root o).map (resultText color (o.isStrict t root))) ++ "\n" ++
      (if (results t root o).countP (·.failed) = 0 then Tint.success else Tint.caution).apply color
        (totalsText (results t root o)) ++ "\n"
  status : (validate t color root o).status = 1 ↔ 0 < (results t root o).countP (·.failed)

theorem validate_of_all (ho : o.all = true) :
    validate t color root o =
      manyOutcome color (o.isStrict t root) o.json (results t root o) := by
  simp only [validate, ho, Bool.true_or, if_true]
  rfl

theorem report_of_not_reachable (ht : t.root.Plain) (hs : t.root.Short) {r : Result}
    (h : r ∈ results t root o) (hr : ¬ r.target.Reachable t root) :
    r.target.kind = .change ∧
      r.report = .error (.noSpecsFolder (r.target.path.join "specs")) ∧ r.failed = true := by
  obtain ⟨htarget, hreport⟩ := mem_validateAll_iff.mp h
  rw [← Target.fits_iff_of_mem_ofProject ht hs htarget, Bool.not_eq_true] at hr
  obtain ⟨kind, id, hid, hnamed⟩ := Target.mem_ofProject_iff.mp htarget
  rw [← hnamed] at hr hreport ⊢
  cases kind with
  | change =>
      have hne : (Project.changePath root id).text ≠ "" :=
        Path.join_text_ne (Path.join_text_ne_of_ne root (by decide)) id
      have hnone : r.report = .error (.noSpecsFolder ((Project.changePath root id).join "specs")) :=
        hreport.trans (Change.report_of_isFolder_eq_false hne hr)
      refine ⟨rfl, hnone, ?_⟩
      rw [Result.failed, hnone]
  | spec =>
      have hfile : t.isFile (Project.specPath root id) = true := Project.isFile_specPath hid
      exact absurd (hr.symm.trans hfile) Bool.false_ne_true

/-- A validation of everything goes by the validations of the single targets. -/
theorem validate_all_by_target (ht : t.root.Plain) (hs : t.root.Short) (color : Bool) (root : Path)
    (ho : o.all = true) : ByTarget t color root o := by
  have hreport (r : Result) (h : r ∈ results t root o) := (mem_validateAll_iff.mp h).2
  have hresolve (r : Result) (h : r ∈ results t root o) :=
    Target.resolve_iff_of_mem_ofProject ht hs (mem_validateAll_iff.mp h).1
  have hsingle (r : Result) (h : r ∈ results t root o) (hreach : r.target.Reachable t root) :
      validate t color root (o.only r.target) = r.outcome color (o.isStrict t root) o.json :=
    validate_only (hreport r h) ((hresolve r h).mpr hreach)
  refine ⟨map_target_validateAll _, ?_, hreport, hresolve, hsingle, fun r h hreach => ?_,
    fun r h => report_of_not_reachable ht hs h, countP_passed_add_countP_failed _, fun hjson => ?_,
    fun hjson hne => ?_, ?_⟩
  · have hnodup := Target.nodup_ofProject ht root
    rwa [← map_target_validateAll (Target.ofProject t root true true), List.map_map] at hnodup
  · rw [hsingle r h hreach, Result.status_outcome_eq_one_iff]
  · rw [validate_of_all ho, hjson, output_manyOutcome_of_json, resultsJson_eq]
  · rw [validate_of_all ho, hjson, output_manyOutcome_of_text hne, resultsText_eq]
  · rw [validate_of_all ho, status_manyOutcome_eq_one_iff]

/-- A project with the folders of its changes and of its specs. -/
def projectWith (changes specs : Node) : FileTree :=
  ⟨.folder .full [("p", .folder .full [("changes", changes), ("specs", specs)])], []⟩

theorem plain_and_short_projectWith {changes specs : Node}
    (hchanges : changes.Plain ∧ changes.Short) (hspecs : specs.Plain ∧ specs.Short) :
    (projectWith changes specs).root.Plain ∧ (projectWith changes specs).root.Short := by
  have hnames : ∀ name ∈ ["changes", "specs"],
      Path.PlainName name ∧ name.utf8ByteSize ≤ FileTree.nameLimit := by decide +kernel
  constructor
  · refine .singleton (by decide +kernel) (.folder _ _ ?_ (by simp) ?_)
    · simpa using fun name h => (hnames name h).1
    · simpa using ⟨hchanges.1, hspecs.1⟩
  · refine .singleton (by decide +kernel) (.folder _ _ ?_ ?_)
    · simpa using fun name h => (hnames name h).2
    · simpa using ⟨hchanges.2, hspecs.2⟩

/-- A change without specs and a spec have one id, and the name of another change cannot be looked
up. -/
theorem validate_all_of_one_id :
    let o : ValidateOptions := ⟨none, none, true, false, false, false, true⟩
    let access : Access :=
      { Access.full with
        bars := fun name => if name = "lost" then some "Input/output error (os error 5)" else none }
    let changes := Node.folder access [("auth", .folder .full []), ("lost", .folder .full [])]
    let specs := Node.folder .full
      [("auth", .folder .full [("spec.md", .file (.ok "text".toUTF8))])]
    let t := projectWith changes specs
    t.root.Plain ∧ t.root.Short ∧ o.all = true ∧
      (results t ⟨"p"⟩ o).map (·.target) =
        [Target.change ⟨"p"⟩ "auth", Target.change ⟨"p"⟩ "lost", Target.spec ⟨"p"⟩ "auth"] ∧
      Target.resolve t ⟨"p"⟩ "auth" (some .change) = .ok (Target.change ⟨"p"⟩ "auth") ∧
      Target.resolve t ⟨"p"⟩ "lost" (some .change) ≠ .ok (Target.change ⟨"p"⟩ "lost") ∧
      (validate t false ⟨"p"⟩ o).status = 1 := by
  intro o access changes specs t
  have hspecs : specs.Plain ∧ specs.Short :=
    ⟨.singleton (by decide +kernel) (.singleton plainName_specFile (.file _)),
      .singleton (by decide +kernel) (.singleton (by decide +kernel) (.file _))⟩
  have hchanges : changes.Plain ∧ changes.Short := by
    constructor
    · refine .folder _ _ (by decide +kernel) (by decide +kernel) ?_
      simpa using Node.Plain.empty _
    · refine .folder _ _ (by decide +kernel) ?_
      simpa using Node.Short.empty _
  obtain ⟨hplain, hshort⟩ : t.root.Plain ∧ t.root.Short :=
    plain_and_short_projectWith hchanges hspecs
  have hall := validate_all_by_target hplain hshort false ⟨"p"⟩ (o := o) rfl
  have hids : Project.changeIds t ⟨"p"⟩ = ["auth", "lost"] := by
    have hlocate : t.locate ((Path.mk "p").join "changes") = .ok ["p", "changes"] :=
      eq_ok_of_toOption (by decide +kernel)
    have hnode : t.node? ((Path.mk "p").join "changes") = some changes :=
      FileTree.node?_eq_some_iff.mpr ⟨_, hlocate, rfl⟩
    rw [Project.changeIds, FileTree.visibleFolders, hnode]
    dsimp only [changes]
    rw [List.mergeSort_of_pairwise (by decide +kernel)]
    decide +kernel
  have hspecIds : Project.specIds t ⟨"p"⟩ = ["auth"] := by decide +kernel
  have htargets : (results t ⟨"p"⟩ o).map (·.target) =
      [Target.change ⟨"p"⟩ "auth", Target.change ⟨"p"⟩ "lost", Target.spec ⟨"p"⟩ "auth"] := by
    rw [hall.targets, hids, hspecIds]
    rfl
  have hresult (target : Target) (h : target ∈ [Target.change ⟨"p"⟩ "auth",
      Target.change ⟨"p"⟩ "lost", Target.spec ⟨"p"⟩ "auth"]) :
      ∃ r ∈ results t ⟨"p"⟩ o, r.target = target := by
    rwa [← List.mem_map, htargets]
  obtain ⟨r, hr, hauth⟩ := hresult (Target.change ⟨"p"⟩ "auth") (by simp)
  obtain ⟨r', hr', hlost⟩ := hresult (Target.change ⟨"p"⟩ "lost") (by simp)
  have hfound := hall.resolved r hr
  have hmissed := hall.resolved r' hr'
  rw [hauth] at hfound
  rw [hlost] at hmissed
  have hreach : (Target.change ⟨"p"⟩ "auth").Reachable t ⟨"p"⟩ := by decide +kernel
  have hbarred : ¬ (Target.change ⟨"p"⟩ "lost").Reachable t ⟨"p"⟩ := by decide +kernel
  have hfailed := (hall.unreachable r' hr' (by rwa [hlost])).2.2
  exact ⟨hplain, hshort, rfl, htargets, hfound.mpr hreach, mt hmissed.mp hbarred,
    hall.status.mpr (List.countP_pos_iff.mpr ⟨r', hr', hfailed⟩)⟩

/-! ## Changes that are listed and not found -/

/-- A project of which `x` is the only change. -/
def xOnly (access : Access) : FileTree :=
  ⟨.folder .full [("p", .folder .full [("changes", .folder access [("x", .folder .full [])])])], []⟩

theorem plain_xOnly (access : Access) : (xOnly access).root.Plain :=
  .singleton (by decide +kernel) (.singleton (by decide +kernel)
    (.singleton (by decide +kernel) (.empty _)))

theorem short_xOnly (access : Access) : (xOnly access).root.Short :=
  .singleton (by decide +kernel) (.singleton (by decide +kernel)
    (.singleton (by decide +kernel) (.empty _)))

/-- With this many slashes the path of the changes is not too long, and that of `x` is. -/
theorem changeIds_xOnly {n : Nat} (hn : n = 4087) :
    let root := Path.withSlashes ⟨"p"⟩ n
    Project.changeIds (xOnly .full) root = ["x"] ∧
      (xOnly .full).bar? (root.join "changes") "x" = none ∧
      (Project.changePath root "x").withinLimit = false := by
  intro root
  have hchanges : (root.join "changes").text.utf8ByteSize = 1 + n + 7 :=
    Path.utf8ByteSize_join_withSlashes ⟨"p"⟩ (by omega) (by decide)
  have hlimit : (root.join "changes").withinLimit = true := by
    rw [Path.withinLimit_iff, Path.limit]
    omega
  have hspot : (xOnly .full).follow ⟨"p"⟩ = .ok ⟨["p"], FileTree.linkLimit⟩ :=
    eq_ok_of_toOption (by decide +kernel)
  have hwalk : ((xOnly .full).walk ⟨["p"], FileTree.linkLimit⟩
      (Path.split "changes".toList)).map (·.place) = .ok ["p", "changes"] :=
    eq_ok_of_toOption (by decide +kernel)
  have hlocate : (xOnly .full).locate (root.join "changes") = .ok ["p", "changes"] :=
    (FileTree.locate_join_withSlashes (by decide) hspot ⟨_, _, rfl⟩ (by decide) hlimit).trans hwalk
  have hnode : (xOnly .full).node? (root.join "changes") =
      some (.folder .full [("x", .folder .full [])]) := by
    rw [FileTree.node?, hlocate]
    rfl
  refine ⟨?_, ?_, ?_⟩
  · rw [Project.changeIds, FileTree.visibleFolders, hnode]
    decide +kernel
  · rw [FileTree.bar?, FileTree.access?, hnode]
    rfl
  · have hsize := Path.utf8ByteSize_le_join (root.join "changes") (q := "x") (by decide)
    have hx : "x".utf8ByteSize = 1 := by decide
    rw [Path.withinLimit_eq_false_iff, Path.limit, Project.changePath]
    omega

/-- What a program sees of a folder that it may read and may not search. -/
def unsearchable : Access :=
  { Access.full with bars := fun _ => some "Permission denied (os error 13)" }

/-- A change that is listed is not found by its id if its path is too long, nor if the folder of the
changes may not be searched. -/
theorem not_forall_resolve_changeIds :
    (¬ ∀ (t : FileTree) (root : Path) (id : String), t.root.Plain → t.root.Short →
      id ∈ Project.changeIds t root → t.bar? (root.join "changes") id = none →
        Target.resolve t root id (some .change) = .ok (Target.change root id)) ∧
    ¬ ∀ (t : FileTree) (root : Path) (id : String), t.root.Plain → t.root.Short →
      id ∈ Project.changeIds t root → (Project.changePath root id).withinLimit = true →
        Target.resolve t root id (some .change) = .ok (Target.change root id) := by
  constructor
  · intro h
    obtain ⟨root, hids, hbar, hlong⟩ : ∃ root, Project.changeIds (xOnly .full) root = ["x"] ∧
        (xOnly .full).bar? (root.join "changes") "x" = none ∧
        (Project.changePath root "x").withinLimit = false := ⟨_, changeIds_xOnly rfl⟩
    have hid : "x" ∈ Project.changeIds (xOnly .full) root := hids ▸ List.mem_singleton_self "x"
    have hfolder : (xOnly .full).isFolder (Project.changePath root "x") = true :=
      Target.resolve_named_iff.mp
        (h (xOnly .full) root "x" (plain_xOnly _) (short_xOnly _) hid hbar)
    rw [Project.isFolder_changePath_iff (plain_xOnly _) (short_xOnly _) hid, hlong] at hfolder
    cases hfolder.1
  · intro h
    have hfolder : (xOnly unsearchable).isFolder (Project.changePath ⟨"p"⟩ "x") = true :=
      Target.resolve_named_iff.mp (h (xOnly unsearchable) ⟨"p"⟩ "x" (plain_xOnly _) (short_xOnly _)
        (by decide +kernel) (by decide +kernel))
    exact absurd hfolder (by decide +kernel)

end CommandLine

end SpecReview
