import Mathlib.Algebra.GroupWithZero.Nat
import SpecReview.Proofs.Except
import SpecReview.Proofs.Review.Clean
import SpecReview.Proofs.Review.Run
import SpecReview.Proofs.Tree.DeltaFiles
import SpecReview.Review.Change

/-! # The verdict on a change

A review of a change reads its files and judges what it has read. The judgment threads a ledger
through the files, but whether there is anything to report depends on the deltas only as a
collection: each of them is in order, fits its base spec, and shares no name with another. -/

namespace SpecReview

theorem Delta.sectionCount_ne_zero_iff {d : Delta} :
    d.sectionCount ≠ 0 ↔ d.added.isSome = true ∨ d.modified.isSome = true ∨
      d.removed.isSome = true ∨ d.renamed.isSome = true := by
  unfold sectionCount
  cases d.added <;> cases d.modified <;> cases d.removed <;> cases d.renamed <;> simp

namespace Change

/-! ## Reading and judging -/

/-- A delta file as it was read, along with its base spec. -/
structure Reading where
  file : DeltaFile
  delta : Delta
  base : Option String

def Reading.submission (r : Reading) : Submission :=
  ⟨r.file.path, r.delta⟩

/-- Reads a delta file and then its base spec. -/
def readFile (t : FileTree) (bases : Path) (file : DeltaFile) : Except ReviewError Reading := do
  let text ← readAt file.path (t.read file.path)
  let base ← readAt (basePath bases file) (t.readOptional (basePath bases file))
  pure ⟨file, Delta.ofText text, base⟩

/-- Reads the delta files of a change in order. -/
def readings (t : FileTree) (change : Path) : Except ReviewError (List Reading) :=
  (t.deltaFiles (change.join "specs")).mapM (readFile t (Project.baseSpecs change))

def judge : Ledger → List Reading → List Issue
  | _, [] => []
  | ledger, r :: rs =>
    (r.delta.review ledger r.file.path).1
      ++ (r.delta.obstacle? r.base).toList.map (mergeIssue r.file)
      ++ judge (r.delta.review ledger r.file.path).2 rs

/-- Reading all files first and judging them then comes to the same. -/
theorem reviewFiles_eq (t : FileTree) (bases : Path) (ledger : Ledger) (files : List DeltaFile) :
    reviewFiles t bases ledger files = (files.mapM (readFile t bases)).map fun rs =>
      (judge ledger rs, (rs.map (·.delta.sectionCount)).sum) := by
  induction files generalizing ledger with
  | nil => rfl
  | cons file files ih =>
      rw [reviewFiles, List.mapM_cons, readFile]
      cases readAt file.path (t.read file.path) with
      | error e => rfl
      | ok text =>
          cases hbase : readAt (basePath bases file) (t.readOptional (basePath bases file)) with
          | error e => simp [hbase, bind, Except.bind, Except.map]
          | ok base =>
              simp only [hbase, ih, bind, Except.bind, pure, Except.pure]
              cases files.mapM (readFile t bases) <;> rfl

/-- A review ends where there is no folder to look in or no file in it. Otherwise it is the judgment
on what was read, along with an issue if that declares nothing. -/
theorem report_eq (t : FileTree) (strict : Bool) (change : Path) :
    report t strict change =
      if t.isFolder (change.join "specs") = false then
        .error (.noSpecsFolder (change.join "specs"))
      else if t.deltaFiles (change.join "specs") = [] then
        .error (.noDeltaFiles (change.join "specs"))
      else (readings t change).map fun rs => Report.ofIssues strict
        (if (rs.map (·.delta.sectionCount)).sum = 0 then
          judge Ledger.empty rs ++ [emptyIssue (change.join "specs")]
        else judge Ledger.empty rs) := by
  rw [report, issues, readings]
  cases t.isFolder (change.join "specs") with
  | false => rfl
  | true =>
      cases t.deltaFiles (change.join "specs") with
      | nil => rfl
      | cons file files =>
          simp only [reviewFiles_eq]
          cases (file :: files).mapM (readFile t (Project.baseSpecs change)) <;> rfl

theorem report_eq_ok {t : FileTree} {strict : Bool} {change : Path} {report : Report}
    (h : Change.report t strict change = .ok report) :
    ∃ rs, readings t change = .ok rs ∧ report = Report.ofIssues strict
      (if (rs.map (·.delta.sectionCount)).sum = 0 then
        judge Ledger.empty rs ++ [emptyIssue (change.join "specs")]
      else judge Ledger.empty rs) := by
  rw [report_eq] at h
  split at h
  · cases h
  · split at h
    · cases h
    · obtain ⟨rs, hrs, heq⟩ := map_eq_ok_iff.mp h
      exact ⟨rs, hrs, heq.symm⟩

theorem file_of_readFile {t : FileTree} {bases : Path} {file : DeltaFile} {r : Reading}
    (h : readFile t bases file = .ok r) : r.file = file := by
  obtain ⟨text, -, h⟩ := bind_eq_ok_iff.mp h
  obtain ⟨base, -, h⟩ := bind_eq_ok_iff.mp h
  cases h
  rfl

theorem files_of_readings {t : FileTree} {bases : Path} {files : List DeltaFile}
    {rs : List Reading} (h : files.mapM (readFile t bases) = .ok rs) : rs.map (·.file) = files := by
  induction files generalizing rs with
  | nil =>
      cases h
      rfl
  | cons file files ih =>
      rw [List.mapM_cons] at h
      obtain ⟨r, hr, h⟩ := bind_eq_ok_iff.mp h
      obtain ⟨rs', hrs, h⟩ := bind_eq_ok_iff.mp h
      cases h
      rw [List.map_cons, file_of_readFile hr, ih hrs]

/-! ## Severities -/

theorem severity_of_mem_judge {ledger : Ledger} {rs : List Reading} {i : Issue}
    (h : i ∈ judge ledger rs) : i.severity = .error := by
  induction rs generalizing ledger with
  | nil => simp [judge] at h
  | cons r rs ih =>
      rw [judge, List.mem_append, List.mem_append] at h
      rcases h with (h | h) | h
      · obtain ⟨f, -, rfl⟩ := List.mem_map.mp h
        rfl
      · obtain ⟨o, -, rfl⟩ := List.mem_map.mp h
        rfl
      · exact ih h

/-- A report of errors alone is valid only if it is empty, strict or not. -/
theorem isValid_ofIssues_iff {strict : Bool} {issues : List Issue}
    (h : ∀ i ∈ issues, i.severity = .error) :
    (Report.ofIssues strict issues).isValid = true ↔ issues = [] := by
  rw [Report.isValid_iff]
  cases issues with
  | nil => cases strict <;> simp [Report.ofIssues]
  | cons i issues =>
      have hi : i.severity = .error := h i (by simp)
      cases strict <;> simp [Report.ofIssues, Issue.escalate, Severity.escalate, hi]

/-! ## The verdict -/

theorem judge_eq_nil_iff {ledger : Ledger} {rs : List Reading} :
    judge ledger rs = [] ↔ Submission.findingsAll ledger (rs.map (·.submission)) = [] ∧
      ∀ r ∈ rs, r.delta.obstacle? r.base = none := by
  induction rs generalizing ledger with
  | nil => simp [judge, Submission.findingsAll]
  | cons r rs ih =>
      rw [judge, List.append_eq_nil_iff, List.append_eq_nil_iff, List.map_cons,
        Submission.findingsAll, List.append_eq_nil_iff, List.forall_mem_cons]
      have hreview : (r.delta.review ledger r.file.path).1 = [] ↔
          r.delta.findings ledger r.file.path = [] := List.map_eq_nil_iff
      have hledger : (r.delta.review ledger r.file.path).2 =
          ledger.recordAll r.file.path r.delta.claims := rfl
      rw [hreview, hledger, ih]
      simp only [List.map_eq_nil_iff, Option.toList_eq_nil_iff, Reading.submission]
      tauto

/-- The files of a change can be accepted: something is declared, every delta is in order and fits
its base spec, and over all files no name is declared twice in one role. -/
structure Acceptable (rs : List Reading) : Prop where
  declares : ∃ r ∈ rs, r.delta.added.isSome = true ∨ r.delta.modified.isSome = true ∨
    r.delta.removed.isSome = true ∨ r.delta.renamed.isSome = true
  inOrder : ∀ r ∈ rs, r.delta.InOrder
  distinct : ∀ role, (rs.flatMap (·.delta.keys role)).Nodup
  mergeable : ∀ r ∈ rs, r.delta.obstacle? r.base = none

theorem acceptable_iff {rs : List Reading}
    (h : rs.Pairwise fun r s => r.file.path.same s.file.path = false) :
    Acceptable rs ↔ (rs.map (·.delta.sectionCount)).sum ≠ 0 ∧ judge Ledger.empty rs = [] := by
  have hfiles : (rs.map (·.submission)).Pairwise fun s s' => s.file.same s'.file = false :=
    List.pairwise_map.mpr h
  have hkeys (role : Role) :
      Submission.keysAll role (rs.map (·.submission)) = rs.flatMap (·.delta.keys role) :=
    List.flatMap_map ..
  have hdeclares : (rs.map (·.delta.sectionCount)).sum ≠ 0 ↔
      ∃ r ∈ rs, r.delta.added.isSome = true ∨ r.delta.modified.isSome = true ∨
        r.delta.removed.isSome = true ∨ r.delta.renamed.isSome = true := by
    simp only [ne_eq, List.sum_eq_zero_iff_forall_eq_nat, List.forall_mem_map, not_forall,
      exists_prop, ← Delta.sectionCount_ne_zero_iff]
  rw [judge_eq_nil_iff, Submission.findingsAll_empty_eq_nil_iff hfiles, hdeclares]
  simp only [hkeys, List.forall_mem_map]
  constructor
  · intro ha
    exact ⟨ha.declares, ⟨ha.inOrder, ha.distinct⟩, ha.mergeable⟩
  · rintro ⟨hd, ⟨ho, hn⟩, hm⟩
    exact ⟨hd, ho, hn, hm⟩

/-- The report on a change is valid exactly if what its files declare is acceptable, whether the
review is strict or not. -/
theorem report_isValid_iff {t : FileTree} (ht : t.root.Plain) {strict : Bool} {change : Path}
    {report : Report} (h : Change.report t strict change = .ok report) :
    ∃ rs, readings t change = .ok rs ∧ (report.isValid = true ↔ Acceptable rs) := by
  obtain ⟨rs, hrs, rfl⟩ := report_eq_ok h
  refine ⟨rs, hrs, ?_⟩
  have hfiles : rs.Pairwise fun r s => r.file.path.same s.file.path = false := by
    have hpairwise := FileTree.pairwise_deltaFiles ht (change.join "specs")
    rw [← files_of_readings hrs] at hpairwise
    exact List.pairwise_map.mp hpairwise
  rw [acceptable_iff hfiles]
  by_cases hcount : (rs.map (·.delta.sectionCount)).sum = 0
  · rw [if_pos hcount, isValid_ofIssues_iff]
    · simp [hcount]
    · -- The issue on an empty change is an error too, and keeps the report from being valid.
      intro i hi
      rcases List.mem_append.mp hi with hi | hi
      · exact severity_of_mem_judge hi
      · rw [List.mem_singleton.mp hi]
        rfl
  · rw [if_neg hcount, isValid_ofIssues_iff fun i => severity_of_mem_judge]
    simp [hcount]

/-- A change that adds one requirement to a capability without a base spec. -/
theorem report_isValid_of_one_requirement :
    let text := "## ADDED Requirements\n### Requirement: A\nMUST\n#### Scenario: b"
    let x := Node.folder .full [("spec.md", .file (.ok text.toUTF8))]
    let t : FileTree :=
      ⟨.folder .full [("c", .folder .full [("specs", .folder .full [("x", x)])])], []⟩
    t.root.Plain ∧ Change.report t true ⟨"c"⟩ = .ok ⟨[]⟩ ∧
      ∃ rs, readings t ⟨"c"⟩ = .ok rs ∧ Acceptable rs := by
  intro text x t
  have ht : t.root.Plain :=
    .singleton (by decide +kernel) (.singleton (by decide +kernel) (.singleton (by decide +kernel)
      (.singleton plainName_specFile (.file (.ok text.toUTF8)))))
  have h : Change.report t true ⟨"c"⟩ = .ok ⟨[]⟩ := eq_ok_of_toOption (by decide +kernel)
  have hvalid : (Report.mk []).isValid = true := rfl
  obtain ⟨rs, hrs, hiff⟩ := report_isValid_iff ht h
  exact ⟨ht, h, rs, hrs, hiff.mp hvalid⟩

end Change

end SpecReview
