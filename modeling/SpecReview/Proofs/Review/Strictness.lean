import SpecReview.Proofs.Review.Verdict

/-! # Strict review and the limit on length

A strict review counts a warning as an error and is the same review otherwise. The limit on the
length of requirements adds notes to a review, which no verdict depends on. -/

namespace SpecReview

theorem Issue.escalate_eq (i : Issue) :
    i.escalate = if i.severity = .warning then { i with severity := .error } else i := by
  obtain ⟨severity, path, message, line⟩ := i
  cases severity <;> rfl

/-- Strict review makes no note of anything else, and nothing else of a note. -/
theorem Severity.escalate_eq_info_iff {s : Severity} : s.escalate = .info ↔ s = .info := by
  cases s <;> simp [escalate]

namespace Report

/-! ## Strict reports -/

/-- What the strict report is to the lenient one on the same spec. -/
structure Escalated (lenient strict : Report) : Prop where
  issues : strict.issues = lenient.issues.map fun i =>
    if i.severity = .warning then { i with severity := .error } else i
  errors : strict.tally.errors = lenient.tally.errors + lenient.tally.warnings
  warnings : strict.tally.warnings = 0
  infos : strict.tally.infos = lenient.tally.infos
  isValid_iff : strict.isValid = true ↔ lenient.tally.errors + lenient.tally.warnings = 0

/-- An issue counts under strict review as it does under lenient review, but for a warning, which
counts as an error. -/
theorem tally_ofIssues_true (issues : List Issue) :
    (ofIssues true issues).tally =
      { errors := (ofIssues false issues).tally.errors + (ofIssues false issues).tally.warnings
        warnings := 0
        infos := (ofIssues false issues).tally.infos } := by
  simp only [tally, countOf, ofIssues, if_true, Bool.false_eq_true, if_false, Tally.mk.injEq]
  induction issues with
  | nil => exact ⟨rfl, rfl, rfl⟩
  | cons i issues ih =>
      obtain ⟨herrors, hwarnings, hinfos⟩ := ih
      simp only [List.map_cons, List.countP_cons, herrors, hwarnings, hinfos, Issue.escalate]
      cases i.severity with
      | error => simpa [Severity.escalate] using Nat.add_right_comm ..
      | warning => simpa [Severity.escalate] using Nat.add_assoc ..
      | info => simp [Severity.escalate]

theorem escalated_ofIssues (issues : List Issue) :
    Escalated (ofIssues false issues) (ofIssues true issues) where
  issues := by simp only [ofIssues, if_true, Bool.false_eq_true, if_false, ← Issue.escalate_eq]
  errors := by rw [tally_ofIssues_true]
  warnings := by rw [tally_ofIssues_true]
  infos := by rw [tally_ofIssues_true]
  isValid_iff := by rw [isValid, tally_ofIssues_true, decide_eq_true_eq]

theorem ofIssues_true_of_errors {issues : List Issue} (h : ∀ i ∈ issues, i.severity = .error) :
    ofIssues true issues = ofIssues false issues := by
  have hmap : issues.map Issue.escalate = issues.map id :=
    List.map_congr_left fun i hi => by rw [Issue.escalate_eq, if_neg (by simp [h i hi]), id]
  simp [ofIssues, hmap]

/-! ## What is more than a note -/

/-- The issues of a report that are more than notes. -/
def problems (r : Report) : List Issue :=
  r.issues.filter (·.severity ≠ .info)

theorem problems_ofIssues (strict : Bool) (issues : List Issue) :
    (ofIssues strict issues).problems =
      (ofIssues strict (issues.filter (·.severity ≠ .info))).issues := by
  cases strict with
  | false => rfl
  | true =>
      have hnote : (fun i : Issue => decide (i.severity ≠ .info)) ∘ Issue.escalate =
          fun i => decide (i.severity ≠ .info) := by
        funext i
        simp [Issue.escalate, Severity.escalate_eq_info_iff]
      simp only [problems, ofIssues, if_true]
      rw [List.filter_map, hnote]

theorem countOf_eq_countP_problems {s : Severity} (h : s ≠ .info) (r : Report) :
    r.countOf s = r.problems.countP (·.severity = s) := by
  rw [countOf, problems, List.countP_filter]
  congr 1
  funext i
  by_cases hs : i.severity = s <;> simp [hs, h]

/-- The verdict on a report and its tally but for the notes go by what is more than a note. -/
theorem verdict_congr {r r' : Report} (h : r.problems = r'.problems) :
    r.isValid = r'.isValid ∧ r.tally.errors = r'.tally.errors ∧
      r.tally.warnings = r'.tally.warnings := by
  have herrors : r.countOf .error = r'.countOf .error := by
    rw [countOf_eq_countP_problems (by decide), h, ← countOf_eq_countP_problems (by decide)]
  have hwarnings : r.countOf .warning = r'.countOf .warning := by
    rw [countOf_eq_countP_problems (by decide), h, ← countOf_eq_countP_problems (by decide)]
  exact ⟨by rw [isValid, isValid, tally, tally, herrors], herrors, hwarnings⟩

end Report

/-! ## The limit on length -/

namespace Base

variable {t : FileTree} {settings : Settings} {strict : Bool} {path : Path}

theorem report_eq_error_iff {e : ReviewError} :
    report t settings strict path = .error e ↔ Change.readAt path (t.read path) = .error e :=
  map_eq_error_iff

theorem report_eq_ok_iff {r : Report} :
    report t settings strict path = .ok r ↔
      ∃ text, Change.readAt path (t.read path) = .ok text ∧
        Report.ofIssues strict (review settings path.text text) = r :=
  map_eq_ok_iff

/-- Only the findings on length are notes. -/
theorem filter_requirementFindings (settings : Settings) (r : Requirement) :
    (requirementFindings settings r).filter (·.severity ≠ .info) =
      r.faults.map (BaseFinding.fault r) := by
  have hfaults : (r.faults.map (BaseFinding.fault r)).filter (·.severity ≠ .info) =
      r.faults.map (BaseFinding.fault r) := by
    rw [List.filter_eq_self]
    intro f hf
    obtain ⟨fault, -, rfl⟩ := List.mem_map.mp hf
    cases fault <;> rfl
  rw [requirementFindings, List.filter_append, hfaults]
  cases settings.maxRequirementLength with
  | none => exact List.append_nil _
  | some limit => by_cases h : limit < r.content.length <;> simp [h, BaseFinding.severity]

theorem filter_review_congr (settings : Settings) (limit : Option Nat) (path text : String) :
    (review { settings with maxRequirementLength := limit } path text).filter
        (·.severity ≠ .info) =
      (review settings path text).filter (·.severity ≠ .info) := by
  have hseverity : (fun i : Issue => decide (i.severity ≠ .info)) ∘ BaseFinding.toIssue path =
      fun f => decide (f.severity ≠ .info) := rfl
  have hpurpose : purposeFindings { settings with maxRequirementLength := limit } =
      purposeFindings settings := rfl
  rw [review, review, List.filter_map, List.filter_map, hseverity]
  simp only [findings, List.filter_append, List.filter_flatMap, filter_requirementFindings,
    hpurpose]

theorem problems_review (settings : Settings) (limit : Option Nat) (strict : Bool)
    (path text : String) :
    (Report.ofIssues strict
        (review { settings with maxRequirementLength := limit } path text)).problems =
      (Report.ofIssues strict (review settings path text)).problems := by
  rw [Report.problems_ofIssues, filter_review_congr, ← Report.problems_ofIssues]

end Base

/-! ## Reviews of specs and changes -/

namespace Change

theorem severity_of_mem_issues {t : FileTree} {change : Path} {found : List Issue}
    (h : issues t change = .ok found) : ∀ i ∈ found, i.severity = .error := by
  have hreport : report t false change = .ok ⟨found⟩ := map_eq_ok_iff.mpr ⟨found, h, rfl⟩
  obtain ⟨rs, -, heq⟩ := report_eq_ok hreport
  have hfound : found = if (rs.map (·.delta.sectionCount)).sum = 0 then
      judge Ledger.empty rs ++ [emptyIssue (change.join "specs")]
      else judge Ledger.empty rs := congrArg Report.issues heq
  intro i hi
  rw [hfound] at hi
  split at hi
  · rcases List.mem_append.mp hi with hi | hi
    · exact severity_of_mem_judge hi
    · rw [List.mem_singleton.mp hi]
      rfl
  · exact severity_of_mem_judge hi

/-- Nothing in a change is a warning, so that strictness has nothing to escalate. -/
theorem report_true (t : FileTree) (change : Path) :
    report t true change = report t false change := by
  unfold report
  cases h : issues t change with
  | error e => rfl
  | ok found => exact congrArg Except.ok (Report.ofIssues_true_of_errors (severity_of_mem_issues h))

end Change

/-- Strict review of a spec fails if lenient review does, and escalates the warnings of the
lenient report; the limit on length changes neither the verdict nor what is more than a note; and
the review of a change, where every issue is an error, is the same strict or not. -/
theorem reports_of_strictness_and_limit (t : FileTree) (settings : Settings) :
    (∀ path,
      (∀ e, Base.report t settings true path = .error e ↔
        Base.report t settings false path = .error e) ∧
      ∀ lenient, Base.report t settings false path = .ok lenient →
        ∃ strict, Base.report t settings true path = .ok strict ∧
          Report.Escalated lenient strict) ∧
    (∀ limit strict path,
      let limited := Base.report t { settings with maxRequirementLength := limit } strict path
      (∀ e, limited = .error e ↔ Base.report t settings strict path = .error e) ∧
      ∀ r, Base.report t settings strict path = .ok r →
        ∃ r', limited = .ok r' ∧ r'.isValid = r.isValid ∧ r'.tally.errors = r.tally.errors ∧
          r'.tally.warnings = r.tally.warnings ∧
          r'.issues.filter (·.severity ≠ .info) = r.issues.filter (·.severity ≠ .info)) ∧
    ∀ change, Change.report t true change = Change.report t false change ∧
      ∀ strict r, Change.report t strict change = .ok r → ∀ i ∈ r.issues, i.severity = .error := by
  refine ⟨fun path => ⟨fun e => ?_, fun lenient h => ?_⟩,
    fun limit strict path => ⟨fun e => ?_, fun r h => ?_⟩, fun change => ?_⟩
  · rw [Base.report_eq_error_iff, Base.report_eq_error_iff]
  · obtain ⟨text, htext, rfl⟩ := Base.report_eq_ok_iff.mp h
    exact ⟨_, Base.report_eq_ok_iff.mpr ⟨text, htext, rfl⟩, Report.escalated_ofIssues _⟩
  · rw [Base.report_eq_error_iff, Base.report_eq_error_iff]
  · obtain ⟨text, htext, rfl⟩ := Base.report_eq_ok_iff.mp h
    have hproblems := Base.problems_review settings limit strict path.text text
    obtain ⟨hvalid, herrors, hwarnings⟩ := Report.verdict_congr hproblems
    exact ⟨_, Base.report_eq_ok_iff.mpr ⟨text, htext, rfl⟩, hvalid, herrors, hwarnings, hproblems⟩
  · refine ⟨Change.report_true t change, fun strict r h => ?_⟩
    have hlenient : Change.report t false change = .ok r := by
      cases strict
      · exact h
      · rwa [Change.report_true] at h
    obtain ⟨found, hfound, rfl⟩ := map_eq_ok_iff.mp hlenient
    exact Change.severity_of_mem_issues hfound

/-- Three warnings and a note on a spec, and the error on a change that declares nothing. -/
theorem reports_of_brief_spec :
    let text := "## Purpose\nShort.\n## Requirements\n### Requirement: A\nThe system does things."
    let specs := Node.folder .full [("spec.md", .file (.ok "nothing".toUTF8))]
    let t : FileTree := ⟨.folder .full [("spec.md", .file (.ok text.toUTF8)),
      ("c", .folder .full [("specs", specs)])], []⟩
    let limited : Settings := { Settings.standard with maxRequirementLength := some 9 }
    let lenient := Report.ofIssues false (Base.review limited "spec.md" text)
    Base.report t limited false ⟨"spec.md"⟩ = .ok lenient ∧ lenient.tally = ⟨0, 3, 1⟩ ∧
      (∃ strict, Base.report t limited true ⟨"spec.md"⟩ = .ok strict ∧
        Report.Escalated lenient strict) ∧
      (∃ r, Base.report t Settings.standard false ⟨"spec.md"⟩ = .ok r ∧
        r.isValid = lenient.isValid ∧ r.tally.warnings = 3) ∧
      Change.report t true ⟨"c"⟩ = .ok ⟨[Change.emptyIssue ⟨"c/specs"⟩]⟩ ∧
      (Change.emptyIssue ⟨"c/specs"⟩).severity = .error := by
  intro text specs t limited lenient
  have hlenient : Base.report t limited false ⟨"spec.md"⟩ = .ok lenient :=
    eq_ok_of_toOption (by decide +kernel)
  have htally : lenient.tally = ⟨0, 3, 1⟩ := by decide +kernel
  have hchange : Change.report t true ⟨"c"⟩ = .ok ⟨[Change.emptyIssue ⟨"c/specs"⟩]⟩ :=
    eq_ok_of_toOption (by decide +kernel)
  obtain ⟨hspec, hlimit, hchanges⟩ := reports_of_strictness_and_limit t limited
  obtain ⟨r, hr, hvalid, -, hwarnings, -⟩ := (hlimit none false ⟨"spec.md"⟩).2 lenient hlenient
  refine ⟨hlenient, htally, (hspec ⟨"spec.md"⟩).2 lenient hlenient, ⟨r, hr, hvalid, ?_⟩, hchange,
    (hchanges ⟨"c"⟩).2 true _ hchange _ (by simp)⟩
  rw [hwarnings, htally]

end SpecReview
