import SpecReview.Proofs.Delta.Rewriting
import SpecReview.Proofs.Name.Canonical
import SpecReview.Proofs.Rename.Pairing

/-! # Deltas up to the spelling of names

Names are compared in canonical form only. Two deltas that are the same once their names are
canonical are reviewed alike, finding by finding, make the same claims, and meet the same obstacle
in base specs with the same canonical names. -/

namespace SpecReview

/-- Names are canonical, and lines keep their numbers. -/
def Rewriting.canonical : Rewriting where
  name := Name.canonical
  line := id
  canonical_name := Name.canonical_canonical

/-- A delta with canonical names. -/
def Delta.canonical (d : Delta) : Delta :=
  Rewriting.canonical.delta d

def DeltaFinding.canonical (f : DeltaFinding) : DeltaFinding :=
  Rewriting.canonical.finding f

def Obstacle.canonical (o : Obstacle) : Obstacle :=
  Rewriting.canonical.obstacle o

namespace Delta

/-- The names on the lines of a text are not blank, so that canonical ones tell which renames are
complete. -/
theorem keeps_of_mem_renames_ofText {text : String} :
    ∀ r ∈ (ofText text).renames, Rewriting.canonical.Keeps r := by
  intro r hr
  rw [renames, renamed_ofText] at hr
  cases hs : sectionOf .renamed (Section.inText text) with
  | none => simp [hs] at hr
  | some s =>
      have hr : r ∈ Rename.inLines s.numbered := by simpa [hs] using hr
      rw [Rewriting.Keeps, Bool.eq_iff_iff, Rename.isComplete_iff_of_mem_inLines hr]
      simp [Rename.isComplete, Rewriting.rename, Rewriting.canonical, Rename.sourceKey,
        Rename.targetKey]

theorem obstacleAmong?_congr {existing existing' : List String}
    (h : ∀ name, name ∈ existing ↔ name ∈ existing') (d : Delta) :
    d.obstacleAmong? existing = d.obstacleAmong? existing' := by
  have hrename : renameObstacle? existing = renameObstacle? existing' := by
    funext r
    simp only [renameObstacle?, h]
  simp only [obstacleAmong?, hrename, h]

variable {text text' : String}

theorem map_canonical_obstacle? (h : (ofText text).canonical = (ofText text').canonical)
    (base : Option String) :
    ((ofText text).obstacle? base).map (·.canonical) =
      ((ofText text').obstacle? base).map (·.canonical) := by
  have hrewritten : (ofText text).canonical.obstacle? base =
      (ofText text').canonical.obstacle? base := by rw [h]
  rwa [canonical, canonical, Rewriting.obstacle?_delta _ keeps_of_mem_renames_ofText,
    Rewriting.obstacle?_delta _ keeps_of_mem_renames_ofText] at hrewritten

theorem map_canonical_findings (h : (ofText text).canonical = (ofText text').canonical)
    (ledger : Ledger) (file : Path) :
    ((ofText text).findings ledger file).map (·.canonical) =
      ((ofText text').findings ledger file).map (·.canonical) := by
  have hrewritten := congrArg (Delta.findings ledger file) h
  rwa [canonical, canonical, Rewriting.findings_delta _ _ _ keeps_of_mem_renames_ofText,
    Rewriting.findings_delta _ _ _ keeps_of_mem_renames_ofText] at hrewritten

/-- Names are compared up to their canonical forms only. Two texts that declare the same but for
the spelling of names are reviewed alike after any reviews before: the same findings in the same
order, but for the spelling, and with the same severities and lines, and the same ledger. What
stands in the way of merging them into base specs with the same canonical names is the same, but
for the spelling. -/
theorem review_of_respelling (h : (ofText text).canonical = (ofText text').canonical) :
    let d := ofText text
    let d' := ofText text'
    (∀ ledger file,
      (d.review ledger file).1.map (fun i => (i.severity, i.line)) =
          (d'.review ledger file).1.map (fun i => (i.severity, i.line)) ∧
        (d.findings ledger file).map (·.canonical) = (d'.findings ledger file).map (·.canonical) ∧
        (d.review ledger file).2 = (d'.review ledger file).2) ∧
      (∀ base base',
        (∀ name, name ∈ Requirement.keysInText base ↔ name ∈ Requirement.keysInText base') →
        (d.obstacle? (some base)).map (·.canonical) =
          (d'.obstacle? (some base')).map (·.canonical)) ∧
      (d.obstacle? none).map (·.canonical) = (d'.obstacle? none).map (·.canonical) := by
  intro d d'
  refine ⟨fun ledger file => ?_, fun base base' hbase => ?_, map_canonical_obstacle? h none⟩
  · have hfindings := map_canonical_findings h ledger file
    have hissues (e : Delta) : (e.review ledger file).1.map (fun i => (i.severity, i.line)) =
        ((e.findings ledger file).map (·.canonical)).map fun f => (.error, some f.line) := by
      rw [review, List.map_map, List.map_map]
      refine List.map_congr_left fun f _ => ?_
      have hline : f.canonical.line = f.line := Rewriting.canonical.line_finding f
      simp [DeltaFinding.toIssue, hline]
    have hclaims := congrArg Delta.claims h
    rw [canonical, canonical, Rewriting.claims_delta _ keeps_of_mem_renames_ofText,
      Rewriting.claims_delta _ keeps_of_mem_renames_ofText] at hclaims
    refine ⟨by rw [hissues, hissues, hfindings], hfindings, ?_⟩
    rw [review, review, hclaims]
  · have hsame : d.obstacle? (some base) = d.obstacle? (some base') := obstacleAmong?_congr hbase d
    rw [hsame]
    exact map_canonical_obstacle? h (some base')

/-- The second entry repeats the first one in another spelling, and the names of the base specs
stand in another order. -/
theorem review_of_respelling_of_two_names :
    let text := "## ADDED Requirements\n### Requirement: A b\n### Requirement: a b\n" ++
      "## RENAMED Requirements\n- FROM: C\n- TO: D"
    let text' := "## ADDED Requirements\n### Requirement: a  B\n### Requirement: A B\n" ++
      "## RENAMED Requirements\n- FROM: c\n- TO: d"
    let base := "### Requirement: c\n### Requirement: A B"
    let base' := "### Requirement: a b\n### Requirement: C"
    let d := ofText text
    let d' := ofText text'
    d.canonical = d'.canonical ∧
      (∀ name, name ∈ Requirement.keysInText base ↔ name ∈ Requirement.keysInText base') ∧
      (d.review Ledger.empty ⟨"a.md"⟩).1.map (fun i => (i.severity, i.line)) =
        (d'.review Ledger.empty ⟨"a.md"⟩).1.map (fun i => (i.severity, i.line)) ∧
      (d.review Ledger.empty ⟨"a.md"⟩).1.length = 5 ∧
      d.obstacle? (some base) = some (.alreadyExists "A b") ∧
      (d'.obstacle? (some base')).map (·.canonical) = some (.alreadyExists "a b") := by
  intro text text' base base' d d'
  have hd : d = ⟨some ⟨1, [⟨"A b", 2, "", []⟩, ⟨"a b", 3, "", []⟩]⟩, none, none,
      some ⟨4, [⟨"C", "D", 5⟩]⟩⟩ := by decide +kernel
  have hd' : d' = ⟨some ⟨1, [⟨"a  B", 2, "", []⟩, ⟨"A B", 3, "", []⟩]⟩, none, none,
      some ⟨4, [⟨"c", "d", 5⟩]⟩⟩ := by decide +kernel
  have h : d.canonical = d'.canonical := by
    rw [hd, hd']
    decide +kernel
  have hbase : Requirement.keysInText base = ["c", "a b"] := by decide +kernel
  have hbase' : Requirement.keysInText base' = ["a b", "c"] := by decide +kernel
  have hnames : ∀ name,
      name ∈ Requirement.keysInText base ↔ name ∈ Requirement.keysInText base' := by
    simp [hbase, hbase', or_comm]
  have hobstacle : d.obstacle? (some base) = some (.alreadyExists "A b") := by
    rw [obstacle?, ← Requirement.keysInText, hbase, hd]
    decide +kernel
  obtain ⟨hreview, hobstacles, -⟩ := @review_of_respelling text text' h
  refine ⟨h, hnames, (hreview Ledger.empty ⟨"a.md"⟩).1, ?_, hobstacle, ?_⟩
  · rw [hd]
    decide +kernel
  · rw [← hobstacles base base' hnames, hobstacle]
    decide +kernel

end Delta

end SpecReview
