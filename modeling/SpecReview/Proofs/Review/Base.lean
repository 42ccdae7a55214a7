import SpecReview.Proofs.Review.Clean
import SpecReview.Proofs.Section.Surviving
import SpecReview.Review.Base

/-! # The review of a base spec, rule by rule

There are rules for a base spec as a whole and rules for each of its requirements. A review reports
the rules that are broken, in the order of the rules and of the requirements, and so it reports
nothing exactly if the spec is in order. -/

namespace SpecReview

namespace Base

/-- The requirements that a review looks at. -/
def reviewed (text : String) : List Requirement :=
  (Section.lastNamed? "Requirements" text).toList.flatMap (·.requirements)

/-- A base spec that breaks no rule. -/
structure InOrder (settings : Settings) (text : String) : Prop where
  purpose : ∃ s, Section.lastNamed? "Purpose" text = some s ∧
    settings.minPurposeLength ≤ s.body.length
  requirements : ∃ s, Section.lastNamed? "Requirements" text = some s
  normative : ∀ r ∈ reviewed text, isNormative r.content = true
  scenarios : ∀ r ∈ reviewed text, r.scenarios ≠ []
  short : ∀ limit, settings.maxRequirementLength = some limit →
    ∀ r ∈ reviewed text, r.content.length ≤ limit

/-! ## Rules -/

/-- The rules for a base spec as a whole. -/
inductive SpecRule where
  | purpose
  | requirements
  | purposeLength

/-- The rules for a requirement of a base spec. -/
inductive RequirementRule where
  | keyword
  | scenario
  | scenarioForm
  | length

namespace SpecRule

/-- Every rule, in the order in which they are checked. -/
def all : List SpecRule :=
  [.purpose, .requirements, .purposeLength]

/-- The issue of a rule with a spec that breaks it. -/
def issue? (settings : Settings) (path text : String) : SpecRule → Option Issue
  | .purpose =>
    if (Section.lastNamed? "Purpose" text).isNone then
      some ⟨.error, path, "Spec must have a Purpose section", some 1⟩
    else none
  | .requirements =>
    if (Section.lastNamed? "Requirements" text).isNone then
      some ⟨.error, path, "Spec must have a Requirements section", some 1⟩
    else none
  | .purposeLength => (Section.lastNamed? "Purpose" text).bind fun s =>
    if s.body.length < settings.minPurposeLength then
      some ⟨.warning, path, "Purpose section is too brief (less than "
        ++ toString settings.minPurposeLength ++ " characters)", some s.line⟩
    else none

end SpecRule

namespace RequirementRule

/-- Every rule, in the order in which they are checked. -/
def all : List RequirementRule :=
  [.keyword, .scenario, .scenarioForm, .length]

/-- The issue of a rule with a requirement that breaks it. -/
def issue? (settings : Settings) (path : String) (r : Requirement) : RequirementRule → Option Issue
  | .keyword =>
    if isNormative r.content then none
    else some ⟨.warning, path ++ ": Requirement '" ++ r.name ++ "'",
      "Requirement \"" ++ r.name ++ "\" must contain SHALL or MUST", some r.line⟩
  | .scenario =>
    if r.scenarios.isEmpty then
      some ⟨.warning, path ++ ": Requirement '" ++ r.name ++ "'",
        "Requirement \"" ++ r.name ++ "\" must have at least one scenario", some r.line⟩
    else none
  | .scenarioForm =>
    match r.scenarios, r.markers with
    | [], m :: _ =>
      some ⟨.error, path ++ ": Requirement '" ++ r.name ++ "'",
        "Scenarios must use level-4 headings (\"#### Scenario: <name>\"); found \"" ++ m.text ++ "\"",
        some m.line⟩
    | _, _ => none
  | .length => settings.maxRequirementLength.bind fun limit =>
    if limit < r.content.length then
      some ⟨.info, path ++ ": Requirement '" ++ r.name ++ "'",
        "Requirement text is very long (more than " ++ toString limit ++ " characters)", some r.line⟩
    else none

end RequirementRule

/-! ## Findings -/

variable {settings : Settings} {path text : String}

theorem findings_eq (settings : Settings) (text : String) :
    findings settings text =
      (if (Section.lastNamed? "Purpose" text).isNone then [.noPurpose] else [])
        ++ (if (Section.lastNamed? "Requirements" text).isNone then [.noRequirements] else [])
        ++ (Section.lastNamed? "Purpose" text).toList.flatMap (purposeFindings settings)
        ++ (reviewed text).flatMap (requirementFindings settings) := by
  rw [findings, Section.find?_inText, Section.find?_inText, reviewed, List.flatMap_assoc]

/-- What a review can find: a section is missing, the Purpose is too brief, or something is wrong
with a requirement. -/
theorem mem_findings_iff {f : BaseFinding} :
    f ∈ findings settings text ↔
      (Section.lastNamed? "Purpose" text = none ∧ f = .noPurpose) ∨
      (Section.lastNamed? "Requirements" text = none ∧ f = .noRequirements) ∨
      (∃ s, Section.lastNamed? "Purpose" text = some s ∧
        s.body.length < settings.minPurposeLength ∧
        f = .briefPurpose settings.minPurposeLength s.line) ∨
      ∃ r ∈ reviewed text, f ∈ requirementFindings settings r := by
  rw [findings_eq, List.mem_append, List.mem_append, List.mem_append, or_assoc, or_assoc]
  refine or_congr (by simp) (or_congr (by simp) (or_congr ?_ (by simp)))
  rw [List.mem_flatMap]
  simp [purposeFindings]

theorem requirementFindings_eq_nil_iff {r : Requirement} :
    requirementFindings settings r = [] ↔ isNormative r.content = true ∧ r.scenarios ≠ [] ∧
      ∀ limit, settings.maxRequirementLength = some limit → r.content.length ≤ limit := by
  rw [requirementFindings, List.append_eq_nil_iff, List.map_eq_nil_iff,
    Requirement.faults_eq_nil_iff, and_assoc]
  cases settings.maxRequirementLength <;> simp

theorem purposeFindings_eq_nil_iff {s : Section} :
    purposeFindings settings s = [] ↔ settings.minPurposeLength ≤ s.body.length := by
  simp [purposeFindings]

theorem findings_eq_nil_iff : findings settings text = [] ↔ InOrder settings text := by
  rw [findings_eq, List.append_eq_nil_iff, List.append_eq_nil_iff, List.append_eq_nil_iff]
  simp only [List.flatMap_eq_nil_iff, requirementFindings_eq_nil_iff, purposeFindings_eq_nil_iff,
    Option.mem_toList]
  constructor
  · rintro ⟨⟨⟨hpurpose, hrequirements⟩, hlength⟩, hr⟩
    obtain ⟨s, hs⟩ : ∃ s, Section.lastNamed? "Purpose" text = some s := by
      cases hs : Section.lastNamed? "Purpose" text with
      | none => simp [hs] at hpurpose
      | some s => exact ⟨s, rfl⟩
    obtain ⟨t, ht⟩ : ∃ t, Section.lastNamed? "Requirements" text = some t := by
      cases ht : Section.lastNamed? "Requirements" text with
      | none => simp [ht] at hrequirements
      | some t => exact ⟨t, rfl⟩
    exact ⟨⟨s, hs, hlength s hs⟩, ⟨t, ht⟩, fun r h => (hr r h).1, fun r h => (hr r h).2.1,
      fun limit hlimit r h => (hr r h).2.2 limit hlimit⟩
  · intro h
    obtain ⟨s, hs, hlength⟩ := h.purpose
    obtain ⟨t, ht⟩ := h.requirements
    refine ⟨⟨⟨by simp [hs], by simp [ht]⟩, ?_⟩, ?_⟩
    · intro s' hs'
      rw [hs] at hs'
      exact Option.some.inj hs' ▸ hlength
    · exact fun r hr => ⟨h.normative r hr, h.scenarios r hr,
        fun limit hlimit => h.short limit hlimit r hr⟩

/-! ## Issues -/

theorem map_toIssue_requirementFindings (settings : Settings) (path : String) (r : Requirement) :
    (requirementFindings settings r).map (·.toIssue path) =
      RequirementRule.all.filterMap (·.issue? settings path r) := by
  have hkeyword : ((if isNormative r.content then [] else [Fault.noKeyword]).map
      (BaseFinding.fault r)).map (·.toIssue path) =
        (RequirementRule.keyword.issue? settings path r).toList := by
    rw [RequirementRule.issue?]
    cases isNormative r.content <;> rfl
  have hscenario : ((if r.scenarios.isEmpty then [Fault.noScenario] else []).map
      (BaseFinding.fault r)).map (·.toIssue path) =
        (RequirementRule.scenario.issue? settings path r).toList := by
    rw [RequirementRule.issue?]
    cases r.scenarios.isEmpty <;> rfl
  have hform : ((if r.onlyMalformed then r.markers.head?.toList.map Fault.malformedScenario
      else []).map (BaseFinding.fault r)).map (·.toIssue path) =
        (RequirementRule.scenarioForm.issue? settings path r).toList := by
    rw [RequirementRule.issue?, Requirement.onlyMalformed]
    cases r.scenarios <;> cases r.markers <;> rfl
  rw [requirementFindings, Requirement.faults, List.map_append, List.map_append, List.map_append,
    List.map_append, List.map_append, hkeyword, hscenario, hform,
    List.filterMap_eq_flatMap_toList]
  simp only [RequirementRule.all, List.flatMap_cons, List.flatMap_nil, List.append_nil,
    List.append_assoc]
  congr 3
  rw [RequirementRule.issue?]
  cases settings.maxRequirementLength with
  | none => rfl
  | some limit =>
      by_cases h : limit < r.content.length
      · simp only [h, if_true, Option.bind_some]
        rfl
      · simp [h]

theorem review_eq (settings : Settings) (path text : String) :
    review settings path text =
      SpecRule.all.filterMap (·.issue? settings path text) ++
        (reviewed text).flatMap fun r =>
          RequirementRule.all.filterMap (·.issue? settings path r) := by
  have hpurpose : (if (Section.lastNamed? "Purpose" text).isNone then [BaseFinding.noPurpose]
      else []).map (·.toIssue path) = (SpecRule.purpose.issue? settings path text).toList := by
    rw [SpecRule.issue?]
    cases (Section.lastNamed? "Purpose" text).isNone <;> rfl
  have hrequirements : (if (Section.lastNamed? "Requirements" text).isNone then
      [BaseFinding.noRequirements] else []).map (·.toIssue path) =
        (SpecRule.requirements.issue? settings path text).toList := by
    rw [SpecRule.issue?]
    cases (Section.lastNamed? "Requirements" text).isNone <;> rfl
  have hlength : ((Section.lastNamed? "Purpose" text).toList.flatMap
      (purposeFindings settings)).map (·.toIssue path) =
        (SpecRule.purposeLength.issue? settings path text).toList := by
    rw [SpecRule.issue?]
    cases Section.lastNamed? "Purpose" text with
    | none => rfl
    | some s =>
        by_cases h : s.body.length < settings.minPurposeLength
        · simp only [purposeFindings, h, Option.toList_some, List.flatMap_singleton, if_true,
            Option.bind_some]
          rfl
        · simp [purposeFindings, h]
  rw [review, findings_eq, List.map_append, List.map_append, List.map_append, hpurpose,
    hrequirements, hlength, List.map_flatMap, List.filterMap_eq_flatMap_toList]
  simp [SpecRule.all, map_toIssue_requirementFindings]

/-! ## Markers -/

/-- Every marker that is found fault with comes directly after the missing scenario. -/
def MarkersFollow (fs : List BaseFinding) : Prop :=
  ∀ before r m after, fs = before ++ .fault r (.malformedScenario m) :: after →
    ∃ earlier, before = earlier ++ [.fault r .noScenario]

theorem MarkersFollow.append {fs gs : List BaseFinding} (hf : MarkersFollow fs)
    (hg : MarkersFollow gs) : MarkersFollow (fs ++ gs) := by
  intro before r m after h
  rcases List.append_eq_append_iff.mp h with ⟨as, hbefore, hgs⟩ | ⟨as, hfs, hafter⟩
  · obtain ⟨earlier, rfl⟩ := hg as r m after hgs
    exact ⟨fs ++ earlier, by rw [hbefore, List.append_assoc]⟩
  · cases as with
    | nil =>
        rw [List.append_nil] at hfs
        obtain ⟨earlier, hnil⟩ := hg [] r m after hafter.symm
        simp at hnil
    | cons a as =>
        obtain ⟨rfl, -⟩ := List.cons.inj hafter
        exact hf before r m as hfs

theorem markersFollow_of_none {fs : List BaseFinding}
    (h : ∀ r m, .fault r (.malformedScenario m) ∉ fs) : MarkersFollow fs := by
  intro before r m after hfs
  exact absurd (by simp [hfs]) (h r m)

theorem markersFollow_pair (r : Requirement) (m : Marker) :
    MarkersFollow [.fault r .noScenario, .fault r (.malformedScenario m)] := by
  intro before r' m' after h
  rcases before with _ | ⟨f, _ | ⟨g, before⟩⟩
  · simp at h
  · obtain ⟨rfl, hrest⟩ := List.cons.inj h
    obtain ⟨hr, -⟩ := BaseFinding.fault.inj (List.cons.inj hrest).1
    exact ⟨[], by rw [hr, List.nil_append]⟩
  · simp at h

/-- A marker is found fault with only if there is no scenario, which is a fault of its own. -/
theorem markersFollow_faults (r : Requirement) :
    MarkersFollow (r.faults.map (BaseFinding.fault r)) := by
  rw [Requirement.faults, List.append_assoc, List.map_append]
  refine MarkersFollow.append (markersFollow_of_none ?_) ?_
  · intro r' m h
    cases hn : isNormative r.content <;> simp [hn] at h
  · rw [Requirement.onlyMalformed]
    cases r.scenarios with
    | nil =>
        cases r.markers with
        | nil => exact markersFollow_of_none (by simp)
        | cons m ms => exact markersFollow_pair r m
    | cons s ss => exact markersFollow_of_none (by simp)

theorem markersFollow_requirementFindings (settings : Settings) (r : Requirement) :
    MarkersFollow (requirementFindings settings r) := by
  refine (markersFollow_faults r).append (markersFollow_of_none ?_)
  intro r' m h
  cases hlimit : settings.maxRequirementLength with
  | none => simp [hlimit] at h
  | some limit => simp [hlimit] at h

theorem markersFollow_findings (settings : Settings) (text : String) :
    MarkersFollow (findings settings text) := by
  rw [findings_eq]
  refine MarkersFollow.append (markersFollow_of_none ?_) ?_
  · intro r m h
    simp only [List.mem_append, List.mem_flatMap, purposeFindings] at h
    rcases h with (h | h) | ⟨s, -, h⟩
    · split at h <;> simp at h
    · split at h <;> simp at h
    · split at h <;> simp at h
  · induction reviewed text with
    | nil => exact markersFollow_of_none (by simp)
    | cons r rs ih => exact (markersFollow_requirementFindings settings r).append ih

/-- A review of a base spec reports nothing exactly if the spec is in order. In general it reports
the broken rules, those for the spec and then those for one requirement after the other, and a
malformed scenario directly after the missing one. -/
theorem review_by_rules (settings : Settings) (path text : String) :
    (review settings path text = [] ↔ InOrder settings text) ∧
      (review settings path text =
        SpecRule.all.filterMap (·.issue? settings path text) ++
          (reviewed text).flatMap fun r =>
            RequirementRule.all.filterMap (·.issue? settings path r)) ∧
      MarkersFollow (findings settings text) := by
  refine ⟨?_, review_eq settings path text, markersFollow_findings settings text⟩
  rw [review, List.map_eq_nil_iff, findings_eq_nil_iff]

end Base

end SpecReview
