import SpecReview.Proofs.Review.Base
import SpecReview.Proofs.Review.Outcome
import SpecReview.Proofs.Review.Quoting

/-! # One line for each issue

A message stands on one line, and so does the path of an issue, where the paths of the files hold
no newline. The text of a report then has one line for each issue. -/

namespace SpecReview

open Text

/-! ## Issues -/

/-- An issue that holds no newline. -/
structure Issue.OneLine (i : Issue) : Prop where
  path : Text.OneLine i.path
  message : Text.OneLine i.message

theorem Issue.OneLine.render {i : Issue} (h : i.OneLine) : Text.OneLine i.render := by
  have hlabel : Text.OneLine i.severity.label := by cases i.severity <;> decide
  exact (hlabel.among h.path (by decide) (by decide) (by decide)).append h.message

theorem Issue.OneLine.escalate {i : Issue} (h : i.OneLine) : i.escalate.OneLine :=
  ⟨h.path, h.message⟩

theorem DeltaFinding.oneLine_toIssue {d : Delta} (hd : d.Quotable) {f : DeltaFinding}
    (hf : f.From d) {file : Path} (hfile : OneLine file.text)
    (hother : ∀ role name other, f.collisionIn? role = some (name, .alsoIn other) →
      OneLine other.text) : (f.toIssue file).OneLine := by
  refine ⟨?_, oneLine_message hd hf hfile hother⟩
  unfold toIssue
  cases h : f.entry? with
  | none => exact hfile
  | some x =>
      obtain ⟨op, name⟩ := x
      have hname : OneLine name := oneLine_of_entry? hd hf h
      have hstart : OneLine (file.text ++ ": " ++ op.keyword) :=
        (hfile.append (by decide)).append op.oneLine_keyword
      exact ((hstart.append (by decide)).append hname).append (by decide)

theorem BaseFinding.oneLine_toIssue {f : BaseFinding} (h : f.Quotable) {path : String}
    (hpath : OneLine path) : (f.toIssue path).OneLine := by
  refine ⟨?_, oneLine_message h⟩
  have hlocator {r : Requirement} (hr : r.Quotable) :
      OneLine (path ++ ": Requirement '" ++ r.name ++ "'") :=
    ((hpath.append (by decide)).append hr.name).append (by decide)
  cases f with
  | noPurpose => exact hpath
  | noRequirements => exact hpath
  | briefPurpose limit line => exact hpath
  | fault r f => exact hlocator h.1
  | tooLong r limit => exact hlocator h

theorem Change.oneLine_mergeIssue {d : Delta} (hd : d.Quotable) {base : Option String}
    {o : Obstacle} (h : d.obstacle? base = some o) {file : DeltaFile}
    (hpath : OneLine file.path.text) (hcapability : OneLine file.capability.text) :
    (mergeIssue file o).OneLine :=
  ⟨hpath, (hcapability.append (by decide)).append (Obstacle.oneLine_message hd h)⟩

theorem Change.oneLine_emptyIssue {specs : Path} (h : OneLine specs.text) :
    (emptyIssue specs).OneLine := by
  have hmessage : OneLine emptyMessage := by decide +kernel
  exact ⟨h, hmessage⟩

/-! ## Reviews -/

/-- The files in a ledger have paths without newlines. -/
def Ledger.Quotable (l : Ledger) : Prop :=
  ∀ c p, l.holder? c = some p → OneLine p.text

theorem Ledger.quotable_empty : empty.Quotable := by
  intro c p h
  simp [holder?_empty] at h

/-- A file that enters its claims comes to hold no more than those. -/
theorem Ledger.Quotable.recordAll {l : Ledger} (h : l.Quotable) {file : Path}
    (hfile : OneLine file.text) (cs : List Claim) : (l.recordAll file cs).Quotable := by
  intro c p hp
  rw [holder?_recordAll, Option.or_eq_some_iff] at hp
  rcases hp with hp | ⟨-, hp⟩
  · exact h c p hp
  · split at hp
    · exact Option.some.inj hp ▸ hfile
    · cases hp

theorem Submission.quotable_reviewAll {ledger : Ledger} (h : ledger.Quotable)
    {ss : List Submission} (hss : ∀ s ∈ ss, OneLine s.file.text) :
    (reviewAll ledger ss).2.Quotable := by
  induction ss generalizing ledger with
  | nil => exact h
  | cons s ss ih =>
      exact ih (h.recordAll (hss s (by simp)) s.delta.claims)
        fun s' hs' => hss s' (List.mem_cons_of_mem s hs')

theorem Delta.oneLine_of_mem_review {ledger : Ledger} (hl : ledger.Quotable) {d : Delta}
    (hd : d.Quotable) {file : Path} (hfile : OneLine file.text) {i : Issue}
    (hi : i ∈ (d.review ledger file).1) : i.OneLine := by
  obtain ⟨f, hf, rfl⟩ := List.mem_map.mp hi
  refine DeltaFinding.oneLine_toIssue hd (from_of_mem_findings hf) hfile ?_
  intro role name other h
  exact hl _ _ (holder?_of_collisionIn? hf h)

theorem Base.quotable_of_mem_reviewed {text : String} {r : Requirement} (h : r ∈ reviewed text) :
    r.Quotable := by
  obtain ⟨s, hs, hr⟩ := List.mem_flatMap.mp h
  rw [← Section.find?_inText, Option.mem_toList] at hs
  exact (Section.standsIn_of_mem_requirements (of_find? hs).1 hr).quotable

theorem Base.quotable_of_mem_findings {settings : Settings} {text : String} {f : BaseFinding}
    (h : f ∈ findings settings text) : f.Quotable := by
  rcases mem_findings_iff.mp h with ⟨-, rfl⟩ | ⟨-, rfl⟩ | ⟨s, -, -, rfl⟩ | ⟨r, hr, hf⟩
  · trivial
  · trivial
  · trivial
  · have hr := quotable_of_mem_reviewed hr
    rw [requirementFindings, List.mem_append] at hf
    rcases hf with hf | hf
    · obtain ⟨fault, hfault, rfl⟩ := List.mem_map.mp hf
      exact ⟨hr, hfault⟩
    · split at hf
      · split at hf
        · obtain rfl := List.mem_singleton.mp hf
          exact hr
        · simp at hf
      · simp at hf

theorem Base.oneLine_of_mem_review {settings : Settings} {path text : String}
    (hpath : OneLine path) {i : Issue} (hi : i ∈ review settings path text) : i.OneLine := by
  obtain ⟨f, hf, rfl⟩ := List.mem_map.mp hi
  exact BaseFinding.oneLine_toIssue (quotable_of_mem_findings hf) hpath

theorem Change.oneLine_of_mem_judge {ledger : Ledger} (hl : ledger.Quotable) {rs : List Reading}
    (hrs : ∀ r ∈ rs, r.delta.Quotable ∧ OneLine r.file.path.text ∧ OneLine r.file.capability.text)
    {i : Issue} (hi : i ∈ judge ledger rs) : i.OneLine := by
  induction rs generalizing ledger with
  | nil => simp [judge] at hi
  | cons r rs ih =>
      -- The rest is reviewed with the ledger that this file has entered its claims in.
      obtain ⟨hdelta, hpath, hcapability⟩ := hrs r (by simp)
      rw [judge, List.mem_append, List.mem_append] at hi
      rcases hi with (hi | hi) | hi
      · exact Delta.oneLine_of_mem_review hl hdelta hpath hi
      · obtain ⟨o, ho, rfl⟩ := List.mem_map.mp hi
        exact oneLine_mergeIssue hdelta (Option.mem_toList.mp ho) hpath hcapability
      · exact ih (hl.recordAll hpath r.delta.claims)
          (fun r' hr' => hrs r' (List.mem_cons_of_mem r hr')) hi

/-! ## Reports -/

/-- The text of a report has a line for each issue, which ends with a newline, and nothing else. -/
structure Report.ByLines (r : Report) : Prop where
  count_newline : r.render.toList.count '\n' = r.issues.length
  splitOn_newline : r.render.toList.splitOn '\n' = r.issues.map
    (fun i => ("[" ++ i.severity.label ++ "] " ++ i.path ++ ": " ++ i.message).toList) ++ [[]]

theorem Report.byLines {r : Report} (h : ∀ i ∈ r.issues, i.OneLine) : r.ByLines := by
  obtain ⟨issues⟩ := r
  induction issues with
  | nil => exact ⟨rfl, rfl⟩
  | cons i issues ih =>
      have hi : '\n' ∉ i.render.toList := (h i (by simp)).render
      have ih := ih fun j hj => h j (List.mem_cons_of_mem i hj)
      have hstep : (Report.mk (i :: issues)).render.toList =
          i.render.toList ++ '\n' :: (Report.mk issues).render.toList := by
        simp [render]
      constructor
      · rw [hstep, List.count_append, List.count_eq_zero.mpr hi, List.count_cons_self,
          ih.count_newline]
        simp
      · rw [hstep, List.splitOn_append_cons_self, List.splitOn_eq_singleton hi,
          ih.splitOn_newline]
        rfl

theorem Report.oneLine_of_mem_ofIssues {strict : Bool} {issues : List Issue}
    (h : ∀ i ∈ issues, i.OneLine) : ∀ i ∈ (ofIssues strict issues).issues, i.OneLine := by
  cases strict with
  | false => exact h
  | true =>
      intro i hi
      obtain ⟨j, hj, rfl⟩ := List.mem_map.mp hi
      exact (h j hj).escalate

theorem Base.oneLine_of_mem_report {t : FileTree} {settings : Settings} {strict : Bool}
    {path : Path} (hpath : OneLine path.text) {r : Report}
    (h : report t settings strict path = .ok r) : ∀ i ∈ r.issues, i.OneLine := by
  obtain ⟨text, -, rfl⟩ := map_eq_ok_iff.mp h
  exact Report.oneLine_of_mem_ofIssues fun i hi => oneLine_of_mem_review hpath hi

theorem Path.oneLine_join {p : Path} {q : String} (hp : OneLine p.text) (hq : OneLine q) :
    OneLine (p.join q).text := by
  unfold join
  split
  · exact hq
  · split
    · exact hp.append hq
    · exact (hp.append (by decide)).append hq

theorem Change.oneLine_of_mem_report {t : FileTree} {strict : Bool} {change : Path}
    (hchange : OneLine change.text)
    (hfiles : ∀ file ∈ t.deltaFiles (change.join "specs"),
      OneLine file.path.text ∧ OneLine file.capability.text)
    {r : Report} (h : report t strict change = .ok r) : ∀ i ∈ r.issues, i.OneLine := by
  obtain ⟨rs, hrs, hissues⟩ := issues_of_report h
  have hreadings : ∀ r ∈ rs,
      r.delta.Quotable ∧ OneLine r.file.path.text ∧ OneLine r.file.capability.text := by
    intro r hr
    obtain ⟨file, hfile, hread⟩ := exists_of_mem_mapM hrs hr
    obtain ⟨text, -, hdelta⟩ := delta_of_readFile hread
    rw [file_of_readFile hread, hdelta]
    exact ⟨Delta.quotable_ofText text, hfiles file hfile⟩
  rw [hissues]
  split
  · intro i hi
    rw [List.mem_singleton.mp hi]
    exact oneLine_emptyIssue (Path.oneLine_join hchange (by decide))
  · exact fun i => oneLine_of_mem_judge Ledger.quotable_empty hreadings

/-- An issue that a review comes to where no path holds a newline: the review of a base spec, that
of a delta after those of any others, or that of what stands in the way of a delta. -/
inductive Issue.Found : Issue → Prop where
  | base {settings : Settings} {path text : String} {i : Issue} (hpath : Text.OneLine path)
      (hi : i ∈ Base.review settings path text) : Found i
  | delta {ss : List Submission} {file : Path} {text : String} {i : Issue}
      (hss : ∀ s ∈ ss, Text.OneLine s.file.text) (hfile : Text.OneLine file.text)
      (hi : i ∈ ((Delta.ofText text).review (Submission.reviewAll Ledger.empty ss).2 file).1) :
      Found i
  | merge {file : DeltaFile} {text : String} {base : Option String} {o : Obstacle}
      (hpath : Text.OneLine file.path.text) (hcapability : Text.OneLine file.capability.text)
      (ho : (Delta.ofText text).obstacle? base = some o) : Found (Change.mergeIssue file o)

theorem Issue.Found.oneLine {i : Issue} (h : i.Found) : i.OneLine := by
  cases h with
  | base hpath hi => exact Base.oneLine_of_mem_review hpath hi
  | delta hss hfile hi =>
      have hledger := Submission.quotable_reviewAll Ledger.quotable_empty hss
      exact Delta.oneLine_of_mem_review hledger (Delta.quotable_ofText _) hfile hi
  | merge hpath hcapability ho =>
      exact Change.oneLine_mergeIssue (Delta.quotable_ofText _) ho hpath hcapability

/-- Where no path holds a newline, no issue does, whatever the texts. A report of such issues has
a line for each of them, strict or not, and so have the reports on base specs and on changes. -/
theorem reports_by_lines :
    (∀ i : Issue, i.Found → i.OneLine) ∧
      (∀ strict issues, (∀ i ∈ issues, Issue.Found i) → (Report.ofIssues strict issues).ByLines) ∧
      (∀ t settings strict path r, OneLine path.text →
        Base.report t settings strict path = .ok r → r.ByLines) ∧
      ∀ t strict change r, OneLine change.text →
        (∀ file ∈ t.deltaFiles (change.join "specs"),
          OneLine file.path.text ∧ OneLine file.capability.text) →
        Change.report t strict change = .ok r → r.ByLines := by
  refine ⟨fun i h => h.oneLine, ?_, ?_, ?_⟩
  · intro strict issues h
    exact Report.byLines (Report.oneLine_of_mem_ofIssues fun i hi => (h i hi).oneLine)
  · intro t settings strict path r hpath h
    exact Report.byLines (Base.oneLine_of_mem_report hpath h)
  · intro t strict change r hchange hfiles h
    exact Report.byLines (Change.oneLine_of_mem_report hchange hfiles h)

/-- A requirement with its scenario in bold, which two files add: in the second of them, and in a
change and a base spec of the first alone. -/
theorem reports_by_lines_of_bold_scenario :
    let text := "## ADDED Requirements\n### Requirement: A\nMUST\n**Scenario: b**"
    let first : Submission := ⟨⟨"c/specs/x/spec.md"⟩, .ofText text⟩
    let ledger := (Submission.reviewAll Ledger.empty [first]).2
    let issues := ((Delta.ofText text).review ledger ⟨"c/specs/y/spec.md"⟩).1
    let x := Node.folder .full [("spec.md", .file (.ok text.toUTF8))]
    let t : FileTree :=
      ⟨.folder .full [("c", .folder .full [("specs", .folder .full [("x", x)])])], []⟩
    let r : Report := ⟨[
      ⟨.error, "c/specs/x/spec.md: ADDED Requirement 'A'",
        "ADDED requirement \"A\" must include at least one scenario", some 2⟩,
      ⟨.error, "c/specs/x/spec.md: ADDED Requirement 'A'", "Scenarios must use level-4 headings " ++
        "(\"#### Scenario: <name>\"); found \"**Scenario: b**\"", some 4⟩]⟩
    let r' : Report := ⟨[BaseFinding.noPurpose, .noRequirements].map (·.toIssue first.file.text)⟩
    issues.length = 3 ∧ (∀ i ∈ issues, i.Found) ∧ (Report.ofIssues true issues).ByLines ∧
      Change.report t false ⟨"c"⟩ = .ok r ∧ r.ByLines ∧
      Base.report t Settings.standard false first.file = .ok r' ∧ r'.ByLines := by
  intro text first ledger issues x t r r'
  have hss : ∀ s ∈ [first], OneLine s.file.text := by decide +kernel
  have hfound : ∀ i ∈ issues, i.Found := fun i hi => .delta hss (by decide) hi
  have hchange : Change.report t false ⟨"c"⟩ = .ok r := eq_ok_of_toOption (by decide +kernel)
  have hbase : Base.report t Settings.standard false first.file = .ok r' :=
    eq_ok_of_toOption (by decide +kernel)
  exact ⟨by decide +kernel, hfound, reports_by_lines.2.1 true issues hfound,
    hchange, reports_by_lines.2.2.2 t false ⟨"c"⟩ r (by decide) (by decide +kernel) hchange,
    hbase, reports_by_lines.2.2.1 t _ false first.file r' (by decide) hbase⟩

end SpecReview
