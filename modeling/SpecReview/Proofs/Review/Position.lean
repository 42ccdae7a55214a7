import SpecReview.Proofs.Rename.Pairing
import SpecReview.Proofs.Requirement.Position
import SpecReview.Review.Base
import SpecReview.Review.Delta

/-! # The lines that issues point at

Every finding comes from a section, a requirement or a rename that keeps the number of its line,
through sections that are replaced and requirements with one name. -/

namespace SpecReview

open Text

/-! ## What a line is to a finding -/

/-- Whether a message has a text in quotes. -/
def Quotes (message quoted : String) : Prop :=
  ∃ before after : String, message = before ++ quoted ++ after ∧
    before.toList.getLast? = some '"' ∧ after.toList.head? = some '"'

/-- The line of a fault is the heading of the requirement, or the marker in the block under that
heading. -/
def Fault.IsAt (text : String) (r : Requirement) (n : Nat) (l : List Char) : Fault → Prop
  | .malformedScenario m =>
    Line.kind l = .malformedScenario ∧ m.text = String.ofList (trim l) ∧
      (n, l) ∈ numberFrom (r.line + 1) (r.blockLines text) ∧
      ∃ h, LineAt text r.line h ∧ Line.kind h = .requirementHead r.name
  | _ => Line.kind l = .requirementHead r.name

/-- The line of a rename is that of its old name, or that of its new name where no old name
waits, in a section of renames. -/
def Rename.IsAt (text : String) (r : Rename) (n : Nat) (l : List Char) : Prop :=
  ∃ s ∈ Section.inText text, Operation.ofHeading? s.name = some .renamed ∧
    ∃ before after, s.numbered = before ++ (n, l) :: after ∧
      (source? l = some r.source ∧ r.target = answer after ∨
        source? l = none ∧ target? l = some r.target ∧ r.source = "" ∧
          waitsAfter false before = false)

namespace DeltaFinding

def IsAt (text : String) (n : Nat) (l : List Char) : DeltaFinding → Prop
  | .emptySection op _ =>
    ∃ name, Line.kind l = .sectionHead name ∧ Operation.ofHeading? name = some op
  | .fault _ r f => f.IsAt text r n l
  | .collision _ r _ => Line.kind l = .requirementHead r.name
  | .incomplete r => r.IsAt text n l
  | .renameCollision _ r _ => r.IsAt text n l
  | .conflict _ r => Line.kind l = .requirementHead r.name

/-- The texts that the message of a finding quotes. -/
def quoted : DeltaFinding → List String
  | .emptySection .. => []
  | .fault _ _ (.malformedScenario m) => [m.text]
  | .fault _ r _ => [r.name]
  | .collision _ r _ => [r.name]
  | .incomplete r => [r.source, r.target]
  | .renameCollision side r _ => [side.name r]
  | .conflict _ r => [r.name]

end DeltaFinding

namespace BaseFinding

/-- A missing section has no line. A brief Purpose is at the last heading of that name. -/
def IsAt (text : String) (n : Nat) (l : List Char) : BaseFinding → Prop
  | .noPurpose => False
  | .noRequirements => False
  | .briefPurpose .. => Line.kind l = .sectionHead "Purpose" ∧
    ∀ m k, LineAt text m k → Line.kind k = .sectionHead "Purpose" → m ≤ n
  | .fault r f => f.IsAt text r n l
  | .tooLong r _ => Line.kind l = .requirementHead r.name

def quoted : BaseFinding → List String
  | .fault _ (.malformedScenario m) => [m.text]
  | .fault r _ => [r.name]
  | _ => []

end BaseFinding

/-! ## Where findings come from -/

namespace Delta

/-- The line of the heading of an operation. -/
def headingLine? (d : Delta) : Operation → Option Nat
  | .added => d.added.map (·.line)
  | .modified => d.modified.map (·.line)
  | .removed => d.removed.map (·.line)
  | .renamed => d.renamed.map (·.line)

end Delta

/-- Whether a finding is about what is in a delta. -/
def DeltaFinding.From (d : Delta) : DeltaFinding → Prop
  | .emptySection op line => d.headingLine? op = some line
  | .fault op r f => r ∈ d.requirements op ∧ f ∈ r.faults
  | .collision op r _ => r ∈ d.requirements op
  | .incomplete r => r ∈ d.renames
  | .renameCollision _ r _ => r ∈ d.renames
  | .conflict c r => r ∈ d.requirements c.reporter

namespace Delta

variable {ledger : Ledger} {file : Path} {d : Delta} {f : DeltaFinding}

theorem of_mem_sectionFindings {α : Type} {op : Operation} {findings : List α → List DeltaFinding}
    {s : Option (Declared α)} (h : f ∈ sectionFindings op findings s) :
    (∃ line, s.map (·.line) = some line ∧ f = .emptySection op line) ∨
      f ∈ findings ((s.map (·.entries)).getD []) := by
  cases s with
  | none => simp [sectionFindings] at h
  | some s =>
      rw [sectionFindings] at h
      split at h
      · exact Or.inl ⟨s.line, rfl, List.mem_singleton.mp h⟩
      · exact Or.inr h

theorem of_mem_requirementFindings {op : Operation} {role : Role} {earlier : List String}
    {rs : List Requirement} (h : f ∈ requirementFindings ledger file op role earlier rs) :
    ∃ r ∈ rs, (∃ g ∈ r.faults, f = .fault op r g) ∨ ∃ c, f = .collision op r c := by
  induction rs generalizing earlier with
  | nil => simp [requirementFindings] at h
  | cons r rs ih =>
      rw [requirementFindings, List.mem_append, List.mem_append] at h
      rcases h with (h | h) | h
      · split at h
        · simp at h
        · obtain ⟨g, hg, rfl⟩ := List.mem_map.mp h
          exact ⟨r, by simp, Or.inl ⟨g, hg, rfl⟩⟩
      · obtain ⟨c, -, rfl⟩ := List.mem_map.mp h
        exact ⟨r, by simp, Or.inr ⟨c, rfl⟩⟩
      · obtain ⟨q, hq, hf⟩ := ih h
        exact ⟨q, List.mem_cons_of_mem r hq, hf⟩

theorem of_mem_renameFindings {sources targets : List String} {rs : List Rename}
    (h : f ∈ renameFindings ledger file sources targets rs) :
    ∃ r ∈ rs, f = .incomplete r ∨ ∃ side c, f = .renameCollision side r c := by
  induction rs generalizing sources targets with
  | nil => simp [renameFindings] at h
  | cons r rs ih =>
      have hlater {sources targets : List String}
          (h : f ∈ renameFindings ledger file sources targets rs) :
          ∃ q ∈ r :: rs, f = .incomplete q ∨ ∃ side c, f = .renameCollision side q c := by
        obtain ⟨q, hq, hf⟩ := ih h
        exact ⟨q, List.mem_cons_of_mem r hq, hf⟩
      rw [renameFindings] at h
      split at h
      · rw [List.mem_append, List.mem_append] at h
        rcases h with (h | h) | h
        · obtain ⟨c, -, rfl⟩ := List.mem_map.mp h
          exact ⟨r, by simp, Or.inr ⟨_, c, rfl⟩⟩
        · obtain ⟨c, -, rfl⟩ := List.mem_map.mp h
          exact ⟨r, by simp, Or.inr ⟨_, c, rfl⟩⟩
        · exact hlater h
      · rcases List.mem_cons.mp h with rfl | h
        · exact ⟨r, by simp, Or.inl rfl⟩
        · exact hlater h

theorem firsts_subset (earlier : List String) (rs : List Requirement) :
    firsts earlier rs ⊆ rs := by
  fun_induction firsts earlier rs with
  | case1 => exact List.nil_subset _
  | case2 earlier r rs hr ih => exact List.subset_cons_of_subset r ih
  | case3 earlier r rs hr ih => exact List.cons_subset_cons r ih

theorem from_of_mem_findings (h : f ∈ d.findings ledger file) : f.From d := by
  have hrequirements {op : Operation} {role : Role} {s : Option (Declared Requirement)}
      (hline : d.headingLine? op = s.map (·.line))
      (hentries : d.requirements op = (s.map (·.entries)).getD [])
      (h : f ∈ sectionFindings op (requirementFindings ledger file op role []) s) :
      f.From d := by
    rcases of_mem_sectionFindings h with ⟨line, heq, rfl⟩ | h
    · exact hline.trans heq
    · rw [← hentries] at h
      obtain ⟨r, hr, ⟨g, hg, rfl⟩ | ⟨c, rfl⟩⟩ := of_mem_requirementFindings h
      · exact ⟨hr, hg⟩
      · exact hr
  simp only [findings, List.mem_append] at h
  rcases h with (((h | h) | h) | h) | h
  · exact @hrequirements .added _ _ rfl rfl h
  · exact @hrequirements .modified _ _ rfl rfl h
  · exact @hrequirements .removed _ _ rfl rfl h
  · rcases of_mem_sectionFindings h with ⟨line, heq, rfl⟩ | h
    · exact heq
    · obtain ⟨r, hr, rfl | ⟨side, c, rfl⟩⟩ := of_mem_renameFindings h
      · exact hr
      · exact hr
  · obtain ⟨c, -, h⟩ := List.mem_flatMap.mp h
    obtain ⟨r, hr, rfl⟩ := List.mem_map.mp h
    exact List.mem_of_mem_filter (firsts_subset _ _ hr)

/-! ## The sections of a delta -/

theorem of_sectionOf {op : Operation} {ss : List Section} {s : Section}
    (h : sectionOf op ss = some s) : s ∈ ss ∧ Operation.ofHeading? s.name = some op := by
  have hop := List.find?_some h
  exact ⟨List.mem_reverse.mp (List.mem_of_find?_eq_some h), of_decide_eq_true hop⟩

theorem headingLine?_ofText (text : String) (op : Operation) :
    (ofText text).headingLine? op = (sectionOf op (Section.inText text)).map (·.line) := by
  cases op with
  | added => rw [headingLine?, added_ofText, requirementsOf, Option.map_map]; rfl
  | modified => rw [headingLine?, modified_ofText, requirementsOf, Option.map_map]; rfl
  | removed => rw [headingLine?, removed_ofText, requirementsOf, Option.map_map]; rfl
  | renamed => rw [headingLine?, renamed_ofText, Option.map_map]; rfl

theorem exists_section_of_mem_requirements {text : String} {op : Operation} {r : Requirement}
    (h : r ∈ (ofText text).requirements op) : ∃ s ∈ Section.inText text, r ∈ s.requirements := by
  have hentries (h : r ∈ ((requirementsOf op (Section.inText text)).map (·.entries)).getD []) :
      ∃ s ∈ Section.inText text, r ∈ s.requirements := by
    cases hs : sectionOf op (Section.inText text) with
    | none => simp [requirementsOf, hs] at h
    | some s =>
        simp only [requirementsOf, hs, Option.map_some, Option.getD_some] at h
        exact ⟨s, (of_sectionOf hs).1, h⟩
  cases op with
  | added => exact hentries (by rwa [requirements, added_ofText] at h)
  | modified => exact hentries (by rwa [requirements, modified_ofText] at h)
  | removed => exact hentries (by rwa [requirements, removed_ofText] at h)
  | renamed => simp [requirements] at h

theorem exists_section_of_mem_renames {text : String} {r : Rename}
    (h : r ∈ (ofText text).renames) :
    ∃ s ∈ Section.inText text, Operation.ofHeading? s.name = some .renamed ∧
      r ∈ Rename.inLines s.numbered := by
  rw [renames, renamed_ofText] at h
  cases hs : sectionOf .renamed (Section.inText text) with
  | none => simp [hs] at h
  | some s =>
      simp only [hs, Option.map_some, Option.getD_some] at h
      exact ⟨s, (of_sectionOf hs).1, (of_sectionOf hs).2, h⟩

end Delta

/-! ## The lines of findings -/

variable {text : String}

theorem Fault.mem_markers_of_mem_faults {r : Requirement} {m : Marker}
    (h : .malformedScenario m ∈ r.faults) : m ∈ r.markers := by
  simp only [Requirement.faults, List.mem_append] at h
  rcases h with (h | h) | h
  · split at h <;> simp at h
  · split at h <;> simp at h
  · split at h
    · obtain ⟨m', hm', heq⟩ := List.mem_map.mp h
      cases heq
      exact List.mem_of_mem_head? (Option.mem_toList.mp hm')
    · simp at h

theorem Fault.exists_isAt {r : Requirement} {f : Fault} (hr : r.StandsIn text)
    (hf : f ∈ r.faults) : ∃ l, LineAt text (f.line r) l ∧ f.IsAt text r (f.line r) l := by
  cases f with
  | noKeyword => exact hr.heading
  | noScenario => exact hr.heading
  | malformedScenario m =>
      obtain ⟨l, hl, hblock, hkind, htext⟩ := hr.markers m (mem_markers_of_mem_faults hf)
      exact ⟨l, hl, hkind, htext, hblock, hr.heading⟩

theorem Rename.exists_isAt {r : Rename} (hr : r ∈ (Delta.ofText text).renames) :
    ∃ l, LineAt text r.line l ∧ r.IsAt text r.line l := by
  obtain ⟨s, hs, hop, hr⟩ := Delta.exists_section_of_mem_renames hr
  obtain ⟨before, l, after, hnumbered, hside⟩ := onLine_of_mem_inLines hr
  have hl : (r.line, l) ∈ s.numbered := by simp [hnumbered]
  exact ⟨l, Section.numbered_subset hs hl, s, hs, hop, before, after, hnumbered, hside⟩

theorem DeltaFinding.exists_isAt {f : DeltaFinding} (hf : f.From (Delta.ofText text)) :
    ∃ l, LineAt text f.line l ∧ f.IsAt text f.line l := by
  have hstands {op : Operation} {r : Requirement} (hr : r ∈ (Delta.ofText text).requirements op) :
      r.StandsIn text := by
    obtain ⟨s, hs, hr⟩ := Delta.exists_section_of_mem_requirements hr
    exact Section.standsIn_of_mem_requirements hs hr
  cases f with
  | emptySection op line =>
      rw [From, Delta.headingLine?_ofText] at hf
      obtain ⟨s, hs, rfl⟩ := Option.map_eq_some_iff.mp hf
      obtain ⟨hmem, hop⟩ := Delta.of_sectionOf hs
      obtain ⟨l, hl, hkind⟩ := Section.exists_heading hmem
      exact ⟨l, hl, s.name, hkind, hop⟩
  | fault op r f => exact Fault.exists_isAt (hstands hf.1) hf.2
  | collision op r c => exact (hstands hf).heading
  | incomplete r => exact Rename.exists_isAt hf
  | renameCollision side r c => exact Rename.exists_isAt hf
  | conflict c r => exact (hstands hf).heading

namespace Base

theorem of_find? {name : String} {ss : List Section} {s : Section}
    (h : Section.find? name ss = some s) : s ∈ ss ∧ s.name = name := by
  have hname := List.find?_some h
  exact ⟨List.mem_of_find?_eq_some h, of_decide_eq_true hname⟩

/-- A finding is that a section is missing, or it has a line. -/
theorem exists_isAt {settings : Settings} {f : BaseFinding} (h : f ∈ findings settings text) :
    f = .noPurpose ∨ f = .noRequirements ∨ ∃ l, LineAt text f.line l ∧ f.IsAt text f.line l := by
  simp only [findings, List.mem_append] at h
  rcases h with ((h | h) | h) | h
  · split at h
    · exact Or.inl (List.mem_singleton.mp h)
    · simp at h
  · split at h
    · exact Or.inr (Or.inl (List.mem_singleton.mp h))
    · simp at h
  · obtain ⟨s, hs, h⟩ := List.mem_flatMap.mp h
    obtain ⟨hmem, hname⟩ := of_find? (Option.mem_toList.mp hs)
    obtain ⟨l, hl, hkind⟩ := Section.exists_heading hmem
    rw [purposeFindings] at h
    split at h
    · obtain rfl := List.mem_singleton.mp h
      refine Or.inr (Or.inr ⟨l, hl, hname ▸ hkind, fun m k hk hkind' => ?_⟩)
      exact Section.le_line_of_heading hmem hk (hname.symm ▸ hkind')
    · simp at h
  · obtain ⟨s, hs, h⟩ := List.mem_flatMap.mp h
    obtain ⟨r, hr, h⟩ := List.mem_flatMap.mp h
    have hstands := Section.standsIn_of_mem_requirements (of_find? (Option.mem_toList.mp hs)).1 hr
    rw [requirementFindings, List.mem_append] at h
    rcases h with h | h
    · obtain ⟨g, hg, rfl⟩ := List.mem_map.mp h
      exact Or.inr (Or.inr (Fault.exists_isAt hstands hg))
    · split at h
      · split at h
        · obtain rfl := List.mem_singleton.mp h
          exact Or.inr (Or.inr hstands.heading)
        · simp at h
      · simp at h

end Base

/-! ## What messages quote -/

theorem getLast?_toList_append {s : String} {c : Char} (h : s.toList.getLast? = some c)
    (t : String) : (t ++ s).toList.getLast? = some c := by
  rw [String.toList_append, List.getLast?_append, h, Option.some_or]

theorem quotes_append {before after : String} (hbefore : before.toList.getLast? = some '"')
    (hafter : after.toList.head? = some '"') (quoted : String) :
    Quotes (before ++ quoted ++ after) quoted :=
  ⟨before, after, rfl, hbefore, hafter⟩

theorem Quotes.append {message quoted : String} (h : Quotes message quoted) (more : String) :
    Quotes (message ++ more) quoted := by
  obtain ⟨before, after, rfl, hbefore, hafter⟩ := h
  refine ⟨before, after ++ more, String.append_assoc, hbefore, ?_⟩
  rw [String.toList_append, List.head?_append, hafter, Option.some_or]

theorem Fault.quotes_markerMessage (m : Marker) : Quotes (markerMessage m) m.text :=
  quotes_append (by decide +kernel) (by decide) m.text

theorem Conflict.quotes_message (c : Conflict) (name : String) : Quotes (c.message name) name := by
  cases c with
  | addedModified => exact quotes_append (by decide) (by decide +kernel) name
  | modifiedRemoved => exact quotes_append (by decide) (by decide +kernel) name
  | addedRemoved => exact quotes_append (by decide) (by decide +kernel) name
  | modifiedRenamed => exact quotes_append (by decide) (by decide +kernel) name
  | addedRenamed => exact quotes_append (by decide) (by decide +kernel) name

theorem DeltaFinding.quotes_message (file : Path) (f : DeltaFinding) :
    ∀ q ∈ f.quoted, Quotes (f.message file) q := by
  intro q hq
  cases f with
  | emptySection op line => simp [quoted] at hq
  | fault op r f =>
      cases f with
      | noKeyword =>
          obtain rfl := List.mem_singleton.mp hq
          exact quotes_append (getLast?_toList_append (by decide) _) (by decide) r.name
      | noScenario =>
          obtain rfl := List.mem_singleton.mp hq
          exact quotes_append (getLast?_toList_append (by decide) _) (by decide) r.name
      | malformedScenario m =>
          obtain rfl := List.mem_singleton.mp hq
          exact Fault.quotes_markerMessage m
  | collision op r c =>
      obtain rfl := List.mem_singleton.mp hq
      cases c with
      | repeated =>
          have hmessage : (collision op r .repeated).message file =
              "Duplicate requirement \"" ++ r.name ++ "\" in " ++ op.keyword ++ " section" := rfl
          rw [hmessage]
          exact ((quotes_append (by decide) (by decide) r.name).append _).append _
      | alsoIn other =>
          have hmessage : (collision op r (.alsoIn other)).message file =
              "Requirement \"" ++ r.name ++ "\" is " ++ op.keyword ++ " in multiple files: "
                ++ other.text ++ " and " ++ file.text := rfl
          rw [hmessage]
          exact (((((quotes_append (by decide) (by decide) r.name).append _).append _).append
            _).append _).append _
  | incomplete r =>
      have hmessage : (incomplete r).message file =
          "RENAMED entry is malformed: FROM \"" ++ r.source ++ "\" / TO \"" ++ r.target
            ++ "\" (both \"- FROM:\" and \"- TO:\" lines are required)" := rfl
      rw [hmessage]
      rcases List.mem_cons.mp hq with rfl | hq
      · exact ((quotes_append (by decide) (by decide) r.source).append _).append _
      · obtain rfl := List.mem_singleton.mp hq
        exact quotes_append (getLast?_toList_append (by decide) _) (by decide) r.target
  | renameCollision side r c =>
      obtain rfl := List.mem_singleton.mp hq
      cases c with
      | repeated =>
          have hmessage : (renameCollision side r .repeated).message file =
              "Duplicate " ++ side.label ++ " name \"" ++ side.name r ++ "\" in RENAMED section" :=
            rfl
          rw [hmessage]
          exact quotes_append (getLast?_toList_append (by decide) _) (by decide) (side.name r)
      | alsoIn other =>
          have hmessage : (renameCollision side r (.alsoIn other)).message file =
              "Requirement \"" ++ side.name r ++ "\" is RENAMED (" ++ side.label
                ++ ") in multiple files: " ++ other.text ++ " and " ++ file.text := rfl
          rw [hmessage]
          exact (((((quotes_append (by decide) (by decide) (side.name r)).append _).append
            _).append _).append _).append _
  | conflict c r =>
      obtain rfl := List.mem_singleton.mp hq
      exact c.quotes_message r.name

theorem BaseFinding.quotes_message (f : BaseFinding) : ∀ q ∈ f.quoted, Quotes f.message q := by
  intro q hq
  cases f with
  | noPurpose => simp [quoted] at hq
  | noRequirements => simp [quoted] at hq
  | briefPurpose limit line => simp [quoted] at hq
  | tooLong r limit => simp [quoted] at hq
  | fault r f =>
      cases f with
      | noKeyword =>
          obtain rfl := List.mem_singleton.mp hq
          exact quotes_append (by decide) (by decide) r.name
      | noScenario =>
          obtain rfl := List.mem_singleton.mp hq
          exact quotes_append (by decide) (by decide) r.name
      | malformedScenario m =>
          obtain rfl := List.mem_singleton.mp hq
          exact Fault.quotes_markerMessage m

/-! ## Issues -/

/-- The line that an issue carries is a line of a text. -/
structure Issue.PointsAt (i : Issue) (text : String) (n : Nat) (l : List Char) : Prop where
  line_eq : i.line = some n
  pos : 1 ≤ n
  le_length : n ≤ (lines text.toList).length
  getElem?_eq : (lines text.toList)[n - 1]? = some l

/-- Every issue on a delta, whatever names earlier files have declared, and every issue on a base
spec but for a missing section points at the line that it is about, and quotes what is there. -/
theorem exists_pointsAt :
    (∀ (ledger : Ledger) (file : Path) (text : String),
      ∀ i ∈ ((Delta.ofText text).review ledger file).1,
        ∃ f ∈ (Delta.ofText text).findings ledger file, i = f.toIssue file ∧
          ∃ n l, i.PointsAt text n l ∧ f.IsAt text n l ∧ ∀ q ∈ f.quoted, Quotes i.message q) ∧
      ∀ (settings : Settings) (path text : String), ∀ i ∈ Base.review settings path text,
        ∃ f ∈ Base.findings settings text, i = f.toIssue path ∧
          (f = .noPurpose ∨ f = .noRequirements ∨
            ∃ n l, i.PointsAt text n l ∧ f.IsAt text n l ∧ ∀ q ∈ f.quoted, Quotes i.message q) := by
  constructor
  · intro ledger file text i hi
    simp only [Delta.review] at hi
    obtain ⟨f, hf, rfl⟩ := List.mem_map.mp hi
    obtain ⟨l, hl, hat⟩ := DeltaFinding.exists_isAt (Delta.from_of_mem_findings hf)
    obtain ⟨hpos, hle, hline⟩ := lineAt_iff.mp hl
    exact ⟨f, hf, rfl, f.line, l, ⟨rfl, hpos, hle, hline⟩, hat, f.quotes_message file⟩
  · intro settings path text i hi
    rw [Base.review] at hi
    obtain ⟨f, hf, rfl⟩ := List.mem_map.mp hi
    refine ⟨f, hf, rfl, ?_⟩
    rcases Base.exists_isAt hf with hmissing | hmissing | ⟨l, hl, hat⟩
    · exact Or.inl hmissing
    · exact Or.inr (Or.inl hmissing)
    · obtain ⟨hpos, hle, hline⟩ := lineAt_iff.mp hl
      exact Or.inr (Or.inr ⟨f.line, l, ⟨rfl, hpos, hle, hline⟩, hat, f.quotes_message⟩)

theorem exists_pointsAt_malformed_scenario :
    let text := "## ADDED Requirements\n### Requirement: A\nA SHALL b.\n##### Scenario: x"
    let i : Issue := ⟨.error, "a: ADDED Requirement 'A'",
      "Scenarios must use level-4 headings (\"#### Scenario: <name>\"); found \"##### Scenario: x\"",
      some 4⟩
    i ∈ ((Delta.ofText text).review Ledger.empty ⟨"a"⟩).1 ∧
      ∃ f : DeltaFinding, i = f.toIssue ⟨"a"⟩ ∧ ∃ l, i.PointsAt text 4 l ∧ f.IsAt text 4 l := by
  intro text i
  have hi : i ∈ ((Delta.ofText text).review Ledger.empty ⟨"a"⟩).1 := by decide +kernel
  refine ⟨hi, ?_⟩
  clear_value text
  obtain ⟨f, -, hf, n, l, hpoints, hat, -⟩ := exists_pointsAt.1 Ledger.empty ⟨"a"⟩ text i hi
  have hn : 4 = n := Option.some.inj hpoints.line_eq
  subst hn
  exact ⟨f, hf, l, hpoints, hat⟩

end SpecReview
