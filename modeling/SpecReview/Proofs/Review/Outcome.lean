import SpecReview.Proofs.Review.Strictness
import SpecReview.Proofs.Section.Surviving
import SpecReview.Proofs.Tree.Slashes

/-! # When the review of a change comes to a report

A review fails where there is no specs folder, where the walk through it comes by no delta file, and
at the first file that cannot be read, for whatever cause. In every other case there is a report,
and a change that declares nothing gets one issue, whatever else its files say. -/

namespace SpecReview

/-! ## Operations that a text has a heading for -/

/-- A text with a section heading that names an operation. -/
def DeclaresOperation (text : String) : Prop :=
  ∃ l ∈ Text.lines text.toList, ∃ name op,
    Section.opening? l = some name ∧ Operation.ofHeading? name = some op

namespace Delta

theorem isSome_sectionOf_iff {op : Operation} {text : String} :
    (sectionOf op (Section.inText text)).isSome = true ↔
      ∃ l ∈ Text.lines text.toList, ∃ name,
        Section.opening? l = some name ∧ Operation.ofHeading? name = some op := by
  have hnames (name : String) : name ∈ (Section.written text).map (·.name) ↔
      ∃ l ∈ Text.lines text.toList, Section.opening? l = some name := by
    rw [Section.map_name_written, List.mem_filterMap]
  rw [sectionOf_inText, sectionOf, List.find?_isSome]
  constructor
  · rintro ⟨s, hs, hop⟩
    obtain ⟨l, hl, hname⟩ := (hnames s.name).mp (List.mem_map_of_mem (List.mem_reverse.mp hs))
    exact ⟨l, hl, s.name, hname, of_decide_eq_true hop⟩
  · rintro ⟨l, hl, name, hname, hop⟩
    obtain ⟨s, hs, rfl⟩ := List.mem_map.mp ((hnames name).mpr ⟨l, hl, hname⟩)
    exact ⟨s, List.mem_reverse.mpr hs, decide_eq_true hop⟩

theorem sectionCount_ofText_ne_zero_iff {text : String} :
    (ofText text).sectionCount ≠ 0 ↔ DeclaresOperation text := by
  rw [sectionCount_ne_zero_iff, added_ofText, modified_ofText, removed_ofText, renamed_ofText]
  simp only [requirementsOf, Option.isSome_map, isSome_sectionOf_iff]
  constructor
  · rintro (h | h | h | h) <;> obtain ⟨l, hl, name, hname, hop⟩ := h <;>
      exact ⟨l, hl, name, _, hname, hop⟩
  · rintro ⟨l, hl, name, op, hname, hop⟩
    cases op
    · exact Or.inl ⟨l, hl, name, hname, hop⟩
    · exact Or.inr (Or.inl ⟨l, hl, name, hname, hop⟩)
    · exact Or.inr (Or.inr (Or.inl ⟨l, hl, name, hname, hop⟩))
    · exact Or.inr (Or.inr (Or.inr ⟨l, hl, name, hname, hop⟩))

/-- A delta without any section has nothing wrong with it and nothing in its way. -/
theorem eq_of_sectionCount_eq_zero {d : Delta} (h : d.sectionCount = 0) :
    d = ⟨none, none, none, none⟩ := by
  have hnone := mt sectionCount_ne_zero_iff.mpr (not_not.mpr h)
  obtain ⟨added, modified, removed, renamed⟩ := d
  simp only [not_or, Option.not_isSome_iff_eq_none] at hnone
  obtain ⟨rfl, rfl, rfl, rfl⟩ := hnone
  rfl

end Delta

namespace Change

variable {t : FileTree} {bases : Path}

/-! ## Reads that fail -/

/-- The cause for which a path cannot be read. -/
def readFailure? (t : FileTree) (p : Path) : Option ReadError :=
  match t.read p with
  | .ok _ => none
  | .error e => some e

/-- The reads of a delta file and then of its base spec that fail. There need not be a base spec. -/
def failures (t : FileTree) (bases : Path) (file : DeltaFile) : List ReviewError :=
  ((readFailure? t file.path).map (.unreadable file.path)).toList ++
    (((readFailure? t (basePath bases file)).filter (· ≠ .notFound)).map
      (.unreadable (basePath bases file))).toList

theorem readFile_eq_error_iff {file : DeltaFile} {e : ReviewError} :
    readFile t bases file = .error e ↔ (failures t bases file).head? = some e := by
  unfold readFile failures readFailure? FileTree.readOptional
  cases t.read file.path with
  | error cause => simp [readAt, bind, Except.bind]
  | ok text =>
      cases t.read (basePath bases file) with
      | ok base => simp [readAt, bind, Except.bind, pure, Except.pure]
      | error cause => cases cause <;> simp [readAt, bind, Except.bind, pure, Except.pure]

/-- The readings of a change fail as the first read that fails. -/
theorem mapM_readFile_eq_error_iff {files : List DeltaFile} {e : ReviewError} :
    files.mapM (readFile t bases) = .error e ↔
      (files.flatMap (failures t bases)).head? = some e :=
  mapM_eq_error_iff fun _ _ => readFile_eq_error_iff

theorem exists_mapM_readFile_iff {files : List DeltaFile} :
    (∃ rs, files.mapM (readFile t bases) = .ok rs) ↔ files.flatMap (failures t bases) = [] := by
  rw [← List.head?_eq_none_iff, Option.eq_none_iff_forall_ne_some]
  simp only [ne_eq, ← mapM_readFile_eq_error_iff]
  cases files.mapM (readFile t bases) <;> simp

/-- The reads that fail when the delta files of a change are read in order, each before its base
spec. -/
def failedReads (t : FileTree) (change : Path) : List ReviewError :=
  (t.deltaFiles (change.join "specs")).flatMap (failures t (Project.baseSpecs change))

theorem exists_of_mem_failedReads {change : Path} {e : ReviewError}
    (h : e ∈ failedReads t change) : ∃ p cause, e = .unreadable p cause := by
  obtain ⟨file, -, he⟩ := List.mem_flatMap.mp h
  simp only [failures, List.mem_append, Option.mem_toList, Option.map_eq_some_iff] at he
  rcases he with ⟨cause, -, rfl⟩ | ⟨cause, -, rfl⟩ <;> exact ⟨_, cause, rfl⟩

/-! ## Changes that declare nothing -/

theorem delta_of_readFile {file : DeltaFile} {r : Reading} (h : readFile t bases file = .ok r) :
    ∃ text, t.read file.path = .ok text ∧ r.delta = Delta.ofText text := by
  obtain ⟨text, htext, h⟩ := bind_eq_ok_iff.mp h
  obtain ⟨base, -, h⟩ := bind_eq_ok_iff.mp h
  cases h
  refine ⟨text, ?_, rfl⟩
  cases hread : t.read file.path <;> simp_all [readAt]

/-- The sections of a change are counted as zero only if no file has one. -/
theorem sum_sectionCount_ne_zero_iff {files : List DeltaFile} {rs : List Reading}
    (h : files.mapM (readFile t bases) = .ok rs) :
    (rs.map (·.delta.sectionCount)).sum ≠ 0 ↔
      ∃ file ∈ files, ∃ text, t.read file.path = .ok text ∧ DeclaresOperation text := by
  induction files generalizing rs with
  | nil =>
      cases h
      simp
  | cons file files ih =>
      rw [List.mapM_cons] at h
      obtain ⟨r, hr, h⟩ := bind_eq_ok_iff.mp h
      obtain ⟨rs, hrs, h⟩ := bind_eq_ok_iff.mp h
      cases h
      obtain ⟨text, htext, hdelta⟩ := delta_of_readFile hr
      have hfile : (∃ text, t.read file.path = .ok text ∧ DeclaresOperation text) ↔
          r.delta.sectionCount ≠ 0 := by
        rw [hdelta, Delta.sectionCount_ofText_ne_zero_iff, htext]
        simp
      simp only [List.map_cons, List.sum_cons, List.exists_mem_cons_iff, hfile, ← ih hrs]
      omega

theorem judge_of_sum_eq_zero {ledger : Ledger} {rs : List Reading}
    (h : (rs.map (·.delta.sectionCount)).sum = 0) : judge ledger rs = [] := by
  induction rs generalizing ledger with
  | nil => rfl
  | cons r rs ih =>
      rw [List.map_cons, List.sum_cons, Nat.add_eq_zero_iff] at h
      have hreview : Delta.review ledger r.file.path ⟨none, none, none, none⟩ = ([], ledger) := rfl
      have hobstacle : Delta.obstacle? ⟨none, none, none, none⟩ r.base = none := by
        cases r.base <;> rfl
      rw [judge, Delta.eq_of_sectionCount_eq_zero h.1, hreview, hobstacle, ih h.2]
      rfl

end Change

/-! ## The message on a change that declares nothing -/

def Change.emptyMessage : String :=
  "Change must have at least one delta operation (ADDED, MODIFIED, REMOVED or RENAMED)"

/-- The message on a finding starts with another letter. -/
theorem DeltaFinding.head?_message (file : Path) (f : DeltaFinding) :
    (f.message file).toList.head?.any (· ≠ 'C') = true := by
  have happend {s t : String} (h : s.toList.head?.any (· ≠ 'C') = true) :
      (s ++ t).toList.head?.any (· ≠ 'C') = true := by
    rw [String.toList_append, List.head?_append]
    cases hs : s.toList.head? with
    | none => simp [hs] at h
    | some c => rwa [hs] at h
  have hkeyword (op : Operation) : op.keyword.toList.head?.any (· ≠ 'C') = true := by
    cases op <;> decide +kernel
  cases f with
  | emptySection op line => exact happend (happend (happend (hkeyword op)))
  | fault op r f =>
      cases f with
      | noKeyword => exact happend (happend (happend (hkeyword op)))
      | noScenario => exact happend (happend (happend (hkeyword op)))
      | malformedScenario m => exact happend (happend (by decide +kernel))
  | collision op r c => cases c <;> (repeat apply happend) <;> decide +kernel
  | incomplete r =>
      repeat apply happend
      decide +kernel
  | renameCollision side r c => cases c <;> (repeat apply happend) <;> decide +kernel
  | conflict c r => cases c <;> (repeat apply happend) <;> decide +kernel

namespace Change

theorem message_mergeIssue_ne (file : DeltaFile) (o : Obstacle) :
    (mergeIssue file o).message ≠ emptyMessage := by
  have hcolon : ':' ∈ (mergeIssue file o).message.toList := by
    have hmessage : (mergeIssue file o).message =
        file.capability.text ++ " fails: " ++ o.message := rfl
    have hfails : ':' ∈ " fails: ".toList := by decide +kernel
    simp only [hmessage, String.toList_append, List.mem_append, hfails, or_true, true_or]
  intro h
  rw [h] at hcolon
  revert hcolon
  decide +kernel

theorem message_toIssue_ne (file : Path) (f : DeltaFinding) :
    (f.toIssue file).message ≠ emptyMessage := by
  intro h
  have hhead := f.head?_message file
  have hmessage : f.message file = emptyMessage := h
  rw [hmessage] at hhead
  revert hhead
  decide +kernel

/-- Nothing that the files say is reported in those words. -/
theorem message_ne_of_mem_judge {ledger : Ledger} {rs : List Reading} {i : Issue}
    (h : i ∈ judge ledger rs) : i.message ≠ emptyMessage := by
  induction rs generalizing ledger with
  | nil => simp [judge] at h
  | cons r rs ih =>
      rw [judge, List.mem_append, List.mem_append] at h
      rcases h with (h | h) | h
      · obtain ⟨f, -, rfl⟩ := List.mem_map.mp h
        exact message_toIssue_ne r.file.path f
      · obtain ⟨o, -, rfl⟩ := List.mem_map.mp h
        exact message_mergeIssue_ne r.file o
      · exact ih h

/-! ## Outcomes -/

/-- Whether the walk through a specs folder comes by a delta file. -/
def HasDeltaFile (t : FileTree) (specs : Path) : Prop :=
  ∃ n names content, t.node? specs = some n ∧
    n.at? (names ++ [specFile]) = some (.file content) ∧ t.Yields specs (names ++ [specFile])

/-- How the review of a change ends: where its specs folder is none, where the walk comes by no
delta file, at the first read that fails, or in a report; and what is reported if nothing is
declared. -/
structure Outcome (t : FileTree) (strict : Bool) (change : Path) : Prop where
  noSpecsFolder : report t strict change = .error (.noSpecsFolder (change.join "specs")) ↔
    t.isFolder (change.join "specs") = false
  noDeltaFiles : report t strict change = .error (.noDeltaFiles (change.join "specs")) ↔
    t.isFolder (change.join "specs") = true ∧ ¬ HasDeltaFile t (change.join "specs")
  unreadable : ∀ p cause, report t strict change = .error (.unreadable p cause) ↔
    t.isFolder (change.join "specs") = true ∧ HasDeltaFile t (change.join "specs") ∧
      (failedReads t change).head? = some (.unreadable p cause)
  reported : (∃ r, report t strict change = .ok r) ↔
    t.isFolder (change.join "specs") = true ∧ HasDeltaFile t (change.join "specs") ∧
      failedReads t change = []
  undeclared : ∀ r, report t strict change = .ok r →
    ((∃ i ∈ r.issues, i.message = emptyMessage) ↔
      ∀ file ∈ t.deltaFiles (change.join "specs"), ∀ text, t.read file.path = .ok text →
        ¬ DeclaresOperation text)
  only_issue : ∀ r, report t strict change = .ok r →
    (∃ i ∈ r.issues, i.message = emptyMessage) →
      r.issues = [⟨.error, (change.join "specs").text, emptyMessage, none⟩]

theorem deltaFiles_eq_nil_iff (ht : t.root.Plain) {specs : Path} :
    t.deltaFiles specs = [] ↔ ¬ HasDeltaFile t specs := by
  rw [List.eq_nil_iff_forall_not_mem]
  constructor
  · rintro h ⟨n, names, content, hn, hcontent, hyields⟩
    exact h _ ((FileTree.mem_deltaFiles_iff ht).mpr ⟨n, names, content, hn, hcontent, hyields, rfl⟩)
  · intro h file hfile
    obtain ⟨n, names, content, hn, hcontent, hyields, -⟩ :=
      (FileTree.mem_deltaFiles_iff ht).mp hfile
    exact h ⟨n, names, content, hn, hcontent, hyields⟩

/-- The issues of a report, if the files of the change were read. -/
theorem issues_of_report {strict : Bool} {change : Path} {r : Report}
    (h : report t strict change = .ok r) :
    ∃ rs, readings t change = .ok rs ∧ r.issues =
      if (rs.map (·.delta.sectionCount)).sum = 0 then [emptyIssue (change.join "specs")]
      else judge Ledger.empty rs := by
  have hlenient : report t false change = .ok r := by
    cases strict
    · exact h
    · rwa [report_true] at h
  obtain ⟨rs, hrs, rfl⟩ := report_eq_ok hlenient
  refine ⟨rs, hrs, ?_⟩
  by_cases hsum : (rs.map (·.delta.sectionCount)).sum = 0
  · simp [Report.ofIssues, hsum, judge_of_sum_eq_zero hsum]
  · simp [Report.ofIssues, hsum]

/-- The message that nothing is declared stands alone. -/
theorem issues_of_emptyMessage {strict : Bool} {change : Path} {r : Report}
    (h : report t strict change = .ok r) (hr : ∃ i ∈ r.issues, i.message = emptyMessage) :
    r.issues = [emptyIssue (change.join "specs")] := by
  obtain ⟨rs, -, hissues⟩ := issues_of_report h
  by_cases hsum : (rs.map (·.delta.sectionCount)).sum = 0
  · rw [hissues, if_pos hsum]
  · obtain ⟨i, hi, hmessage⟩ := hr
    rw [hissues, if_neg hsum] at hi
    exact absurd hmessage (message_ne_of_mem_judge hi)

theorem exists_emptyMessage_iff {strict : Bool} {change : Path} {r : Report}
    (h : report t strict change = .ok r) :
    (∃ i ∈ r.issues, i.message = emptyMessage) ↔
      ∀ file ∈ t.deltaFiles (change.join "specs"), ∀ text, t.read file.path = .ok text →
        ¬ DeclaresOperation text := by
  obtain ⟨rs, hrs, hissues⟩ := issues_of_report h
  have hdeclares := not_congr (sum_sectionCount_ne_zero_iff hrs)
  push Not at hdeclares
  rw [← hdeclares, hissues]
  constructor
  · rintro ⟨i, hi, hmessage⟩
    by_contra hsum
    rw [if_neg hsum] at hi
    exact message_ne_of_mem_judge hi hmessage
  · intro hsum
    rw [if_pos hsum]
    exact ⟨_, List.mem_singleton_self _, rfl⟩

theorem report_eq_error_iff (ht : t.root.Plain) {strict : Bool} {change : Path} {e : ReviewError} :
    report t strict change = .error e ↔
      (t.isFolder (change.join "specs") = false ∧ .noSpecsFolder (change.join "specs") = e) ∨
      (t.isFolder (change.join "specs") = true ∧ ¬ HasDeltaFile t (change.join "specs") ∧
        .noDeltaFiles (change.join "specs") = e) ∨
      (t.isFolder (change.join "specs") = true ∧ HasDeltaFile t (change.join "specs") ∧
        (failedReads t change).head? = some e) := by
  have hread : readings t change = .error e ↔ (failedReads t change).head? = some e :=
    mapM_readFile_eq_error_iff
  have hfiles : t.deltaFiles (change.join "specs") = [] ↔
      ¬ HasDeltaFile t (change.join "specs") := deltaFiles_eq_nil_iff ht
  rw [report_eq, ← hread]
  by_cases hfolder : t.isFolder (change.join "specs") = false
  · simp [hfolder]
  · by_cases hdelta : HasDeltaFile t (change.join "specs")
    · simp [hfolder, hfiles, hdelta, map_eq_error_iff]
    · simp [hfolder, hfiles, hdelta]

theorem exists_report_iff (ht : t.root.Plain) {strict : Bool} {change : Path} :
    (∃ r, report t strict change = .ok r) ↔
      t.isFolder (change.join "specs") = true ∧ HasDeltaFile t (change.join "specs") ∧
        failedReads t change = [] := by
  have hread : (∃ rs, readings t change = .ok rs) ↔ failedReads t change = [] :=
    exists_mapM_readFile_iff
  have hfiles : t.deltaFiles (change.join "specs") = [] ↔
      ¬ HasDeltaFile t (change.join "specs") := deltaFiles_eq_nil_iff ht
  rw [report_eq, ← hread]
  by_cases hfolder : t.isFolder (change.join "specs") = false
  · simp [hfolder]
  · by_cases hdelta : HasDeltaFile t (change.join "specs")
    · simp [hfolder, hfiles, hdelta, map_eq_ok_iff]
    · simp [hfolder, hfiles, hdelta]

/-- The review of a change ends in one of four ways, and in a report the message that nothing is
declared stands alone. -/
theorem outcome (ht : t.root.Plain) (strict : Bool) (change : Path) : Outcome t strict change := by
  -- A read that fails is told apart from the two ways to end without any read.
  have hhead {e : ReviewError} (h : (failedReads t change).head? = some e) :
      ∃ p cause, e = .unreadable p cause :=
    exists_of_mem_failedReads (List.mem_of_mem_head? h)
  refine ⟨?_, ?_, fun p cause => ?_, exists_report_iff ht, fun r => exists_emptyMessage_iff,
    fun r => issues_of_emptyMessage⟩
  · rw [report_eq_error_iff ht]
    constructor
    · rintro (⟨h, -⟩ | ⟨-, -, h⟩ | ⟨-, -, h⟩)
      · exact h
      · cases h
      · obtain ⟨_, _, h⟩ := hhead h
        cases h
    · exact fun h => Or.inl ⟨h, rfl⟩
  · rw [report_eq_error_iff ht]
    constructor
    · rintro (⟨-, h⟩ | ⟨hfolder, hdelta, -⟩ | ⟨-, -, h⟩)
      · cases h
      · exact ⟨hfolder, hdelta⟩
      · obtain ⟨_, _, h⟩ := hhead h
        cases h
    · exact fun ⟨hfolder, hdelta⟩ => Or.inr (Or.inl ⟨hfolder, hdelta, rfl⟩)
  · rw [report_eq_error_iff ht]
    simp

/-- A change without a specs folder, one with its only delta file in a folder that cannot be opened,
one with a base spec that cannot be read, and one that declares nothing. -/
theorem outcome_of_four_changes :
    let denied := "Permission denied (os error 13)"
    let spec (content : Except String ByteArray) := Node.folder .full [("spec.md", .file content)]
    let locked := Node.folder { Access.full with closed := some denied }
      [("spec.md", .file (.ok "text".toUTF8))]
    let change (name : String) (n : Node) :=
      Node.folder .full [("specs", .folder .full [(name, n)])]
    let t : FileTree := ⟨.folder .full [
      ("changes", .folder .full [("bare", .folder .full []), ("closed", change "x" locked),
        ("a", change "x" (spec (.ok "text".toUTF8))),
        ("b", change "y" (spec (.ok "text".toUTF8)))]),
      ("specs", .folder .full [("x", spec (.error denied))])], []⟩
    let specs (change : String) := (Path.mk change).join "specs"
    t.root.Plain ∧
      report t false ⟨"changes/bare"⟩ = .error (.noSpecsFolder (specs "changes/bare")) ∧
      report t false ⟨"changes/closed"⟩ = .error (.noDeltaFiles (specs "changes/closed")) ∧
      report t false ⟨"changes/a"⟩ =
        .error (.unreadable ⟨"changes/a/../../specs/x/spec.md"⟩ (.refused denied)) ∧
      ∃ r, report t false ⟨"changes/b"⟩ = .ok r ∧
        r.issues = [⟨.error, (specs "changes/b").text, emptyMessage, none⟩] ∧
        ¬ DeclaresOperation "text" := by
  intro denied spec locked change t specs
  have hspec (content : Except String ByteArray) : (spec content).Plain :=
    .singleton plainName_specFile (.file content)
  have hchange {name : String} {n : Node} (hname : Path.PlainName name) (h : n.Plain) :
      (change name n).Plain :=
    .singleton (by decide +kernel) (.singleton hname h)
  have hchanges : (Node.folder .full [("bare", .folder .full []), ("closed", change "x" locked),
      ("a", change "x" (spec (.ok "text".toUTF8))),
      ("b", change "y" (spec (.ok "text".toUTF8)))]).Plain := by
    refine .folder _ _ (by decide +kernel) (by decide +kernel) ?_
    simp only [List.forall_mem_cons, List.not_mem_nil, false_imp_iff, implies_true, and_true]
    exact ⟨.empty _, hchange (by decide +kernel) (.singleton plainName_specFile (.file _)),
      hchange (by decide +kernel) (hspec _), hchange (by decide +kernel) (hspec _)⟩
  have ht : t.root.Plain := by
    refine .folder _ _ (by decide +kernel) (by decide +kernel) ?_
    simp only [List.forall_mem_cons, List.not_mem_nil, false_imp_iff, implies_true, and_true]
    exact ⟨hchanges, .singleton (by decide +kernel) (hspec _)⟩
  have hdelta : HasDeltaFile t (specs "changes/a") :=
    not_not.mp (mt (deltaFiles_eq_nil_iff ht).mpr (by decide +kernel))
  have hreport : report t false ⟨"changes/b"⟩ = .ok ⟨[emptyIssue (specs "changes/b")]⟩ :=
    eq_ok_of_toOption (by decide +kernel)
  have hempty : ∃ i ∈ [emptyIssue (specs "changes/b")], i.message = emptyMessage :=
    ⟨_, List.mem_singleton_self _, rfl⟩
  have hundeclared := ((outcome ht false ⟨"changes/b"⟩).undeclared _ hreport).mp hempty
  refine ⟨ht, ?_, ?_, ?_, _, hreport, (outcome ht false ⟨"changes/b"⟩).only_issue _ hreport hempty,
    hundeclared ⟨⟨"changes/b/specs/y/spec.md"⟩, ⟨"y"⟩⟩ (by decide +kernel) "text"
      (eq_ok_of_toOption (by decide +kernel))⟩
  · exact (outcome ht false ⟨"changes/bare"⟩).noSpecsFolder.mpr (by decide +kernel)
  · exact (outcome ht false ⟨"changes/closed"⟩).noDeltaFiles.mpr
      ⟨by decide +kernel, (deltaFiles_eq_nil_iff ht).mp (by decide +kernel)⟩
  · exact ((outcome ht false ⟨"changes/a"⟩).unreadable _ _).mpr
      ⟨by decide +kernel, hdelta, by decide +kernel⟩

/-! ## Spec files that the walk does not come by -/

/-- A specs folder with the one capability `auth`. -/
def authSpecs (access : Access) : Node :=
  .folder .full [("auth", .folder access [("spec.md", .file (.ok "x".toUTF8))])]

def authOnly (access : Access) : FileTree :=
  ⟨.folder .full [("c", .folder .full [("specs", authSpecs access)])], []⟩

theorem plain_authOnly (access : Access) : (authOnly access).root.Plain :=
  .singleton (by decide +kernel) (.singleton (by decide +kernel) (.singleton (by decide +kernel)
    (.singleton plainName_specFile (.file _))))

/-- Whether there is a spec file anywhere beneath the folder that a path leads to. -/
def HasSpecFile (t : FileTree) (specs : Path) : Prop :=
  ∃ n names content, t.node? specs = some n ∧ n.at? (names ++ [specFile]) = some (.file content)

theorem isFolder_and_hasSpecFile_authOnly {access : Access} {specs : Path}
    (h : (authOnly access).node? specs = some (authSpecs access)) :
    (authOnly access).isFolder specs = true ∧ HasSpecFile (authOnly access) specs := by
  refine ⟨?_, _, ["auth"], _, h, rfl⟩
  rw [FileTree.isFolder, h]
  rfl

/-- With this many slashes the path of the specs folder is not too long, and that of `auth` is. -/
theorem deltaFiles_authOnly {n : Nat} (hmin : 4086 ≤ n) (hmax : n < 4090) :
    let specs := (Path.withSlashes ⟨"c"⟩ n).join "specs"
    (authOnly .full).node? specs = some (authSpecs .full) ∧
      (authOnly .full).deltaFiles specs = [] := by
  intro specs
  have hspecs : specs.text.utf8ByteSize = 1 + n + 5 :=
    Path.utf8ByteSize_join_withSlashes ⟨"c"⟩ (by omega) (by decide)
  have hlimit : specs.withinLimit = true := by
    rw [Path.withinLimit_iff, Path.limit]
    omega
  have hplace : (authOnly .full).follow ⟨"c"⟩ = .ok ⟨["c"], FileTree.linkLimit⟩ :=
    eq_ok_of_toOption (by decide +kernel)
  have hlocate : (authOnly .full).locate specs = .ok ["c", "specs"] := by
    rw [FileTree.locate_join_withSlashes (by decide) hplace ⟨_, _, rfl⟩ (by decide) hlimit]
    exact eq_ok_of_toOption (by decide +kernel)
  have hnode : (authOnly .full).node? specs = some (authSpecs .full) := by
    rw [FileTree.node?, hlocate]
    rfl
  have hhomes : (authSpecs .full).homes specFile = [["auth"]] := by decide +kernel
  have hlong : (specs.join "auth").withinLimit = false := by
    have hauth : "auth".utf8ByteSize = 4 := by decide
    have hsize := Path.utf8ByteSize_le_join specs (q := "auth") (by decide)
    rw [Path.withinLimit_eq_false_iff, Path.limit]
    omega
  refine ⟨hnode, ?_⟩
  rw [FileTree.deltaFiles, hnode]
  simp [hhomes, FileTree.capabilityFolder, hlong]

/-- A spec file beneath the specs is not found if the path of its folder is too long, not even where
everything can be seen, nor if its folder cannot be opened, however short its path. -/
theorem not_forall_noDeltaFiles_iff :
    (¬ ∀ (strict : Bool) (change : Path), (authOnly .full).isFolder (change.join "specs") = true →
      (report (authOnly .full) strict change = .error (.noDeltaFiles (change.join "specs")) ↔
        ¬ HasSpecFile (authOnly .full) (change.join "specs"))) ∧
    ¬ ∀ (t : FileTree) (strict : Bool), t.root.Plain → t.isFolder ⟨"c/specs"⟩ = true →
      (report t strict ⟨"c"⟩ = .error (.noDeltaFiles ⟨"c/specs"⟩) ↔
        ¬ HasSpecFile t ⟨"c/specs"⟩) := by
  constructor
  · intro h
    obtain ⟨hnode, hfiles⟩ := @deltaFiles_authOnly 4089 (by decide) (by decide)
    obtain ⟨hfolder, hspec⟩ := isFolder_and_hasSpecFile_authOnly hnode
    have hreport : report (authOnly .full) false (Path.withSlashes ⟨"c"⟩ 4089) =
        .error (.noDeltaFiles ((Path.withSlashes ⟨"c"⟩ 4089).join "specs")) := by
      rw [report_eq, if_neg (by simp [hfolder]), if_pos hfiles]
    exact (h false _ hfolder).mp hreport hspec
  · intro h
    let locked := { Access.full with closed := some "Permission denied (os error 13)" }
    have hlocate : (authOnly locked).locate ⟨"c/specs"⟩ = .ok ["c", "specs"] :=
      eq_ok_of_toOption (by decide +kernel)
    have hnode : (authOnly locked).node? ⟨"c/specs"⟩ = some (authSpecs locked) := by
      rw [FileTree.node?, hlocate]
      rfl
    obtain ⟨hfolder, hspec⟩ := isFolder_and_hasSpecFile_authOnly hnode
    have hjoin : (Path.mk "c").join "specs" = ⟨"c/specs"⟩ := by decide +kernel
    have hreport : report (authOnly locked) false ⟨"c"⟩ = .error (.noDeltaFiles ⟨"c/specs"⟩) := by
      rw [report_eq, hjoin, if_neg (by simp [hfolder]), if_pos (by decide +kernel)]
    exact (h (authOnly locked) false (plain_authOnly _) hfolder).mp hreport hspec

end Change

end SpecReview
