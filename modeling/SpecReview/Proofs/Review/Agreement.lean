import SpecReview.Proofs.Delta.Rendering
import SpecReview.Proofs.Delta.Rewriting
import SpecReview.Proofs.Review.Base

/-! # The rules that both reviews check

A delta holds the requirements that it adds or modifies to the rules to which a base spec holds its
own. The same lines below the heading of an operation and below that of the Requirements therefore
break the same rules in the same places, which a delta counts as errors throughout. -/

namespace SpecReview

open Text

/-! ## Broken rules -/

/-- A rule that a requirement breaks, with what its issue says: the name of the requirement and the
line, or the marker in a form that does not count. -/
inductive Breach where
  | keyword (name : String) (line : Nat)
  | scenario (name : String) (line : Nat)
  | scenarioForm (name : String) (marker : Marker)
  deriving DecidableEq

/-- The rules that a requirement breaks. One with a scenario may mark others in any form. -/
def Requirement.breaches (r : Requirement) : List Breach :=
  (if isNormative r.content then [] else [.keyword r.name r.line]) ++
    match r.scenarios, r.markers with
    | [], [] => [.scenario r.name r.line]
    | [], m :: _ => [.scenario r.name r.line, .scenarioForm r.name m]
    | _ :: _, _ => []

namespace Breach

/-- The issue of a delta, with a number of lines ahead of those that are counted. -/
def deltaIssue (op : Operation) (file : Path) (ahead : Nat) : Breach → Issue
  | .keyword name line =>
    ⟨.error, file.text ++ ": " ++ op.keyword ++ " Requirement '" ++ name ++ "'",
      op.keyword ++ " requirement \"" ++ name ++ "\" must contain SHALL or MUST",
      some (line + ahead)⟩
  | .scenario name line =>
    ⟨.error, file.text ++ ": " ++ op.keyword ++ " Requirement '" ++ name ++ "'",
      op.keyword ++ " requirement \"" ++ name ++ "\" must include at least one scenario",
      some (line + ahead)⟩
  | .scenarioForm name m =>
    ⟨.error, file.text ++ ": " ++ op.keyword ++ " Requirement '" ++ name ++ "'",
      "Scenarios must use level-4 headings (\"#### Scenario: <name>\"); found \"" ++ m.text ++ "\"",
      some (m.line + ahead)⟩

/-- The issue of a base spec, with a number of lines ahead of those that are counted. -/
def baseIssue (path : String) (ahead : Nat) : Breach → Issue
  | .keyword name line =>
    ⟨.warning, path ++ ": Requirement '" ++ name ++ "'",
      "Requirement \"" ++ name ++ "\" must contain SHALL or MUST", some (line + ahead)⟩
  | .scenario name line =>
    ⟨.warning, path ++ ": Requirement '" ++ name ++ "'",
      "Requirement \"" ++ name ++ "\" must have at least one scenario", some (line + ahead)⟩
  | .scenarioForm name m =>
    ⟨.error, path ++ ": Requirement '" ++ name ++ "'",
      "Scenarios must use level-4 headings (\"#### Scenario: <name>\"); found \"" ++ m.text ++ "\"",
      some (m.line + ahead)⟩

end Breach

/-! ## One more section -/

namespace Section

variable {ahead text name : String} {heading : List Char} {ls : List (List Char)}

/-- A section below a text comes after the sections of the text. -/
theorem written_append
    (hlines : Text.lines text.toList = Text.lines ahead.toList ++ heading :: ls)
    (hheading : opening? heading = some name) (hls : ∀ l ∈ ls, opening? l = none) :
    written text =
      written ahead ++ [⟨name, (Text.lines ahead.toList).length + 1, ls⟩] := by
  have hbody (n : Nat) : Block.cut opening? (fun _ => false) n ls = (ls, []) := by
    have hunbroken : ∀ l ∈ ls, opening? l = none ∧ (fun _ => false) l = false :=
      fun l hl => ⟨hls l hl, rfl⟩
    simpa [Block.cut] using Block.cut_append hunbroken n []
  rw [written, hlines, Block.all, Block.cut_append_cons hheading, List.map_append, Block.cut,
    hbody, hheading, Nat.add_comm]
  rfl

theorem lastNamed?_append
    (hlines : Text.lines text.toList = Text.lines ahead.toList ++ heading :: ls)
    (hheading : opening? heading = some name) (hls : ∀ l ∈ ls, opening? l = none)
    (other : String) :
    lastNamed? other text =
      if name = other then some ⟨name, (Text.lines ahead.toList).length + 1, ls⟩
      else lastNamed? other ahead := by
  rw [lastNamed?, written_append hlines hheading hls, List.reverse_append, List.reverse_singleton,
    List.singleton_append, List.find?_cons]
  by_cases h : name = other <;> simp [h, lastNamed?]

end Section

/-! ## Base specs -/

namespace Base

variable {settings : Settings}

theorem filterMap_issue?_down (h : settings.maxRequirementLength = none) (path : String) (k : Nat)
    (r : Requirement) :
    RequirementRule.all.filterMap (·.issue? settings path ((Rewriting.down k).requirement r)) =
      r.breaches.map (·.baseIssue path k) := by
  have hscenarios : ((Rewriting.down k).requirement r).scenarios = r.scenarios := rfl
  have hmarkers : ((Rewriting.down k).requirement r).markers =
      r.markers.map (Rewriting.down k).marker := rfl
  have hcontent : ((Rewriting.down k).requirement r).content = r.content := rfl
  rw [List.filterMap_eq_flatMap_toList]
  simp only [RequirementRule.all, List.flatMap_cons, List.flatMap_nil, RequirementRule.issue?, h,
    hscenarios, hmarkers, hcontent, Requirement.breaches]
  cases isNormative r.content <;> cases r.scenarios <;> cases r.markers <;> rfl

/-- A base spec with a Purpose that is long enough, and with requirements below it, is reviewed
for the rules that the requirements break. -/
theorem review_of_purpose {ahead text path : String} {heading : List Char}
    {ls : List (List Char)} (hlimit : settings.maxRequirementLength = none)
    (hpurpose : ∃ s, Section.lastNamed? "Purpose" ahead = some s ∧
      settings.minPurposeLength ≤ s.body.length)
    (hlines : lines text.toList = lines ahead.toList ++ heading :: ls)
    (hheading : Section.opening? heading = some "Requirements")
    (hls : ∀ l ∈ ls, Section.opening? l = none) :
    review settings path text =
      ((Requirement.inLines 1 ls).flatMap (·.breaches)).map
        (·.baseIssue path ((lines ahead.toList).length + 1)) := by
  obtain ⟨s, hs, hlength⟩ := hpurpose
  have hnamed := Section.lastNamed?_append hlines hheading hls
  have hfound : Section.lastNamed? "Purpose" text = some s := by
    rw [hnamed, if_neg (by decide), hs]
  have hrequirements : Section.lastNamed? "Requirements" text =
      some ⟨"Requirements", (lines ahead.toList).length + 1, ls⟩ := by
    rw [hnamed, if_pos rfl]
  have hspec : SpecRule.all.filterMap (·.issue? settings path text) = [] := by
    simp [SpecRule.all, SpecRule.issue?, hfound, hrequirements, Nat.not_lt.mpr hlength]
  have hreviewed : reviewed text = (Requirement.inLines 1 ls).map
      (Rewriting.down ((lines ahead.toList).length + 1)).requirement := by
    rw [reviewed, hrequirements, Option.toList_some, List.flatMap_singleton, Section.requirements,
      ← Requirement.inLines_add, Nat.add_comm 1]
  rw [review_eq, hspec, hreviewed, List.nil_append, List.flatMap_map, List.map_flatMap]
  simp only [filterMap_issue?_down hlimit]

end Base

/-! ## Deltas -/

/-- Whether a finding is on a section as a whole: nothing is in it, or a name is there again. -/
def DeltaFinding.isOnSection : DeltaFinding → Bool
  | .emptySection .. => true
  | .collision _ _ .repeated => true
  | _ => false

namespace Delta

variable {file : Path} {op : Operation}

theorem map_toIssue_faults_down (op : Operation) (file : Path) (k : Nat) (r : Requirement) :
    (((Rewriting.down k).requirement r).faults.map
        (DeltaFinding.fault op ((Rewriting.down k).requirement r))).map (·.toIssue file) =
      r.breaches.map (·.deltaIssue op file k) := by
  rw [Rewriting.faults_requirement, Requirement.faults, Requirement.onlyMalformed,
    Requirement.breaches]
  cases isNormative r.content <;> cases r.scenarios <;> cases r.markers <;> rfl

/-- With no other file, a requirement can only repeat a name, and has its own faults. -/
theorem filter_requirementFindings_empty (h : op ≠ .removed) (role : Role)
    (earlier : List String) (rs : List Requirement) :
    (requirementFindings .empty file op role earlier rs).filter (!·.isOnSection) =
      rs.flatMap fun r => r.faults.map (.fault op r) := by
  induction rs generalizing earlier with
  | nil => rfl
  | cons r rs ih =>
      have hfaults : (r.faults.map (DeltaFinding.fault op r)).filter (!·.isOnSection) =
          r.faults.map (.fault op r) := by
        rw [List.filter_eq_self]
        intro f hf
        obtain ⟨f, -, rfl⟩ := List.mem_map.mp hf
        rfl
      have hcollision : ((collision? .empty file earlier ⟨role, r.key⟩).toList.map
          (DeltaFinding.collision op r)).filter (!·.isOnSection) = [] := by
        by_cases hr : r.key ∈ earlier <;>
          simp [collision?, hr, DeltaFinding.isOnSection, Ledger.otherHolder?,
            Ledger.holder?_empty]
      rw [requirementFindings, if_neg h, List.filter_append, List.filter_append, hfaults,
        hcollision, ih, List.append_nil, List.flatMap_cons]

/-- A delta with the one section of an operation. -/
def single (op : Operation) (s : Declared Requirement) : Delta where
  added := if op = .added then some s else none
  modified := if op = .modified then some s else none
  removed := if op = .removed then some s else none
  renamed := none

/-- One section is in conflict with no other. -/
theorem conflicting_single (hop : op = .added ∨ op = .modified) (s : Declared Requirement)
    (c : Conflict) : (single op s).conflicting c = [] := by
  rw [conflicting_eq_nil_iff]
  rcases hop with rfl | rfl <;> cases c <;>
    simp [single, requirements, Conflict.reporter, Conflict.forbidden, completeRenames, renames]

theorem findings_single (hop : op = .added ∨ op = .modified) (s : Declared Requirement) :
    (single op s).findings .empty file =
      sectionFindings op (requirementFindings .empty file op op.role []) (some s) := by
  simp only [findings, conflicting_single hop, List.map_nil]
  rcases hop with rfl | rfl <;> simp [single, sectionFindings, Operation.role]

theorem ofText_eq_single {text : String} {ls : List (List Char)}
    (hlines : lines text.toList = op.headLine :: ls)
    (hls : ∀ l ∈ ls, Section.opening? l = none) (hop : op = .added ∨ op = .modified) :
    ofText text = single op ⟨1, Requirement.inLines 2 ls⟩ := by
  have hahead : lines text.toList = lines "".toList ++ op.headLine :: ls := hlines
  have hwritten : Section.written text = [⟨op.heading, 1, ls⟩] :=
    Section.written_append hahead op.opening?_headLine hls
  have hsection (op' : Operation) : sectionOf op' (Section.inText text) =
      if op = op' then some ⟨op.heading, 1, ls⟩ else none := by
    rw [sectionOf_inText, hwritten, sectionOf]
    by_cases h : op = op' <;> simp [Operation.ofHeading?_heading, h]
  rw [ofText]
  simp only [requirementsOf, hsection, single]
  rcases hop with rfl | rfl <;> rfl

/-- The findings on the requirements of one section are those of the rules that they break. -/
theorem map_toIssue_filter_findings {text : String} {ls : List (List Char)}
    (hlines : lines text.toList = op.headLine :: ls)
    (hls : ∀ l ∈ ls, Section.opening? l = none) (hop : op = .added ∨ op = .modified) :
    (((ofText text).findings .empty file).filter (!·.isOnSection)).map (·.toIssue file) =
      ((Requirement.inLines 1 ls).flatMap (·.breaches)).map (·.deltaIssue op file 1) := by
  have hremoved : op ≠ .removed := by rcases hop with rfl | rfl <;> decide
  have hdown : Requirement.inLines 2 ls =
      (Requirement.inLines 1 ls).map (Rewriting.down 1).requirement :=
    Requirement.inLines_add 1 1 ls
  rw [ofText_eq_single hlines hls hop, findings_single hop, sectionFindings, hdown]
  cases hrs : Requirement.inLines 1 ls with
  | nil => rfl
  | cons r rs =>
      rw [← hrs, if_neg (by simp [hrs]), filter_requirementFindings_empty hremoved,
        List.flatMap_map, List.map_flatMap, List.map_flatMap]
      simp only [map_toIssue_faults_down]

end Delta

/-- Below the heading of an operation and below that of the Requirements, lines without section
headings break the same rules: each breach is one issue of both reviews, in the order of the
breaches, with the severity and the wording of each. -/
theorem reviews_agree (settings : Settings) (file : Path) (path ahead body : String)
    (op : Operation) (hop : op = .added ∨ op = .modified)
    (hlimit : settings.maxRequirementLength = none)
    (hpurpose : ∃ s, Section.lastNamed? "Purpose" ahead = some s ∧
      settings.minPurposeLength ≤ s.body.length)
    (hahead : Terminated ahead.toList)
    (hbody : ∀ l ∈ lines body.toList, Section.opening? l = none) :
    let delta := Delta.ofText ("## " ++ op.heading ++ "\n" ++ body)
    let spec := ahead ++ "## Requirements\n" ++ body
    let breaches := (Requirement.inLines 1 (lines body.toList)).flatMap (·.breaches)
    ((delta.findings .empty file).filter (!·.isOnSection)).map (·.toIssue file) =
        breaches.map (·.deltaIssue op file 1) ∧
      Base.review settings path spec =
        breaches.map (·.baseIssue path ((lines ahead.toList).length + 1)) := by
  intro delta spec breaches
  have hdelta : lines ("## " ++ op.heading ++ "\n" ++ body).toList =
      op.headLine :: lines body.toList := by
    have htext : ("## " ++ op.heading ++ "\n" ++ body).toList =
        op.headLine ++ ['\n'] ++ body.toList := by
      simp [Operation.headLine]
    rw [htext, op.wholeLines_headLine]
    rfl
  have hspec : lines spec.toList =
      lines ahead.toList ++ "## Requirements".toList :: lines body.toList := by
    have htext : spec.toList =
        ahead.toList ++ ("## Requirements".toList ++ '\n' :: body.toList) := by
      simp [spec]
    rw [htext, hahead.wholeLines, lines_append_newline (by decide) (by decide)]
  exact ⟨Delta.map_toIssue_filter_findings hdelta hbody hop,
    Base.review_of_purpose hlimit hpurpose hspec (by decide) hbody⟩

/-- A stray heading ends a requirement, and a name that is there again is no breach. -/
theorem reviews_agree_on_four_requirements :
    let settings : Settings := { Settings.standard with minPurposeLength := 4 }
    let file : Path := ⟨"specs/cap/spec.md"⟩
    let ahead := "# Title\n## Purpose\nWhy.\n"
    let body := "text\n### Requirement: A\nMay.\n### Requirement: a\nMUST\n**Scenario: x**\n" ++
      "### Notes\n#### Scenario: y\n### Requirement: B\nShall.\n#### Scenario: z\n" ++
      "### Scenario: z\n### Requirement: C"
    let delta := Delta.ofText ("## " ++ Operation.added.heading ++ "\n" ++ body)
    let breaches : List Breach := [.keyword "A" 2, .scenario "A" 2, .scenario "a" 4,
      .scenarioForm "a" ⟨6, "**Scenario: x**"⟩, .keyword "C" 13, .scenario "C" 13]
    (∃ s, Section.lastNamed? "Purpose" ahead = some s ∧
        settings.minPurposeLength ≤ s.body.length) ∧
      Terminated ahead.toList ∧ (∀ l ∈ lines body.toList, Section.opening? l = none) ∧
      ((delta.findings .empty file).filter (!·.isOnSection)).map (·.toIssue file) =
        breaches.map (·.deltaIssue .added file 1) ∧
      Base.review settings "spec.md" (ahead ++ "## Requirements\n" ++ body) =
        breaches.map (·.baseIssue "spec.md" 4) := by
  intro settings file ahead body delta breaches
  have hpurpose : ∃ s, Section.lastNamed? "Purpose" ahead = some s ∧
      settings.minPurposeLength ≤ s.body.length :=
    ⟨⟨"Purpose", 2, ["Why.".toList]⟩, by decide +kernel, by decide +kernel⟩
  have hahead : Terminated ahead.toList := by decide +kernel
  have hbody : ∀ l ∈ lines body.toList, Section.opening? l = none := by decide +kernel
  have hbreaches : (Requirement.inLines 1 (lines body.toList)).flatMap (·.breaches) = breaches := by
    decide +kernel
  have hreviews := reviews_agree settings file "spec.md" ahead body .added (Or.inl rfl) rfl hpurpose
    hahead hbody
  have hlength : (lines ahead.toList).length = 3 := by decide +kernel
  simp only [hbreaches, hlength] at hreviews
  exact ⟨hpurpose, hahead, hbody, hreviews⟩

end SpecReview
