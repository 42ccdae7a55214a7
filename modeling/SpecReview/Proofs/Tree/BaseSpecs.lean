import SpecReview.Proofs.Tree.Walk
import SpecReview.Review.Change

/-! # Where the base specs of a change are

The base specs of a change are looked for beside the parent of its folder. Which folder that is
is read off the spelling of the path: its last two components come off, as if each led down one
folder. A `..` among them leads up instead, and the base specs of another folder are taken. This is
for trees without links, in which a place has one spelling by names. -/

namespace SpecReview

open SpecReview.Path FileTree

namespace FileTree

/-- The place that segments lead to from a place. -/
def leadFrom (t : FileTree) (place : List String) (ss : List (List Char)) :
    Except ReadError (List String) :=
  (t.walk ⟨place, linkLimit⟩ ss).map (·.place)

/-- Whether `..` leads up from a folder and from the one above it. -/
def LetsUp (t : FileTree) (place : List String) : Prop :=
  t.next place ['.', '.'] = .ok place.dropLast ∧
    t.next place.dropLast ['.', '.'] = .ok place.dropLast.dropLast

theorem follow_join_dots {t : FileTree} {p : Path} {spot : Spot} (hp : p.text ≠ "")
    (hspot : t.follow p = .ok spot) (hup : t.next spot.place ['.', '.'] = .ok spot.place.dropLast) :
    t.follow (p.join "..") = .ok { spot with place := spot.place.dropLast } := by
  have hsplit : split "..".toList = [['.', '.']] := by decide
  rw [follow_join hp (by decide), hspot, hsplit]
  change t.walk spot [['.', '.']] = _
  rw [walk_cons, step_of_next hup (of_next hup).1.dropLast.ne_link]
  rfl

end FileTree

namespace Project

/-- The specs beside the parent of a folder, wherever that folder is. -/
def besideParent (change : Path) : Path :=
  ((change.join "..").join "..").join "specs"

/-- Whether the last two components of a path come off it with a `..` among them. -/
def Misleads (change : Path) : Prop :=
  (if change.components.1 then 2 else 3) ≤ change.components.2.length ∧
    ['.', '.'] ∈ change.components.2.reverse.take 2

instance : DecidablePred Misleads := fun _ => inferInstanceAs (Decidable (_ ∧ _))

theorem misleads_iff {change project : Path} {s u : List Char} (h : project.text ≠ "")
    (hcomponents : change.components = (project.components.1, project.components.2 ++ [s, u])) :
    Misleads change ↔ ['.', '.'] ∈ [u, s] := by
  have habsolute : project.components.1 = project.isAbsolute := by rw [components_eq]
  rw [Misleads, hcomponents, habsolute, List.reverse_append]
  refine and_iff_right ?_
  cases hp : project.isAbsolute with
  | true => simp
  | false =>
      have hlength := List.length_pos_iff.mpr (components_snd_ne_nil h hp)
      simp only [Bool.false_eq_true, if_false, List.length_append, List.length_cons]
      omega

/-- Where two components do not come off, none misleads. -/
theorem not_misleads {change : Path}
    (h : (change.parent?.bind (·.parent?)).filter (!·.text.isEmpty) = none) :
    ¬ Misleads change := by
  suffices hlength : change.components.2.length < if change.components.1 then 2 else 3 from
    fun hmisleads => absurd hmisleads.1 (Nat.not_le.mpr hlength)
  cases hp : change.parent? with
  | none =>
      rw [components_snd_of_parent?_eq_none hp, List.length_nil]
      split <;> omega
  | some p =>
      obtain ⟨u, hu⟩ := components_of_parent? hp
      cases hq : p.parent? with
      | none =>
          rw [hu, components_snd_of_parent?_eq_none hq, List.nil_append, List.length_singleton]
          split <;> omega
      | some q =>
          obtain ⟨s, hs⟩ := components_of_parent? hq
          have htext : q.text = "" := by simpa [hp, hq] using h
          have hempty : q = ⟨""⟩ := congrArg Path.mk htext
          have hcomponents : components ⟨""⟩ = (false, []) := by decide
          rw [hu, hs, hempty, hcomponents]
          simp

variable {t : FileTree} {change : Path} {place project : List String}

theorem follow_besideParent {links : Nat} (htext : change.text ≠ "")
    (hplace : t.follow change = .ok ⟨place, links⟩) (hup : t.LetsUp place) :
    t.follow (besideParent change) =
      t.walk ⟨place.dropLast.dropLast, links⟩ ["specs".toList] := by
  have hsplit : split "specs".toList = ["specs".toList] := by decide
  have hparent := follow_join_dots htext hplace hup.1
  have hgrandparent := follow_join_dots (join_text_ne htext "..") hparent hup.2
  rw [besideParent, follow_join (join_text_ne (join_text_ne htext "..") "..") (by decide),
    hgrandparent, hsplit]
  rfl

/-- Two steps end two folders further down, unless one of them leads up. -/
theorem eq_dropLast_dropLast_iff {above : List String} {s u : List Char}
    (hs : Leads project s above) (hu : Leads above u place) (hsidle : idle s = false)
    (huidle : idle u = false) :
    project = place.dropLast.dropLast ↔ ['.', '.'] ∉ [u, s] ∨ project = [] := by
  -- A place less deep than the folder is the folder only where both are the root.
  have hshort {names : List String} (h : names.length ≤ project.length - 1) :
      project = names ↔ project = [] := by
    constructor
    · intro heq
      have hlength := congrArg List.length heq
      exact List.length_eq_zero_iff.mp (by omega)
    · intro heq
      rw [heq] at h ⊢
      exact (List.length_eq_zero_iff.mp (by simpa using h)).symm
  cases hs with
  | stay h => simp [h] at hsidle
  | up =>
      have hdots : ¬ ['.', '.'] ∉ [u, ['.', '.']] := by simp
      rw [or_iff_right hdots]
      cases hu with
      | stay h => simp [h] at huidle
      | up => exact hshort (by simp only [List.length_dropLast]; omega)
      | enter _ hdown =>
          rw [List.dropLast_concat]
          exact hshort (by simp only [List.length_dropLast]; omega)
  | enter _ hdown =>
      cases hu with
      | stay h => simp [h] at huidle
      | up =>
          rw [List.dropLast_concat]
          have hdots : ¬ ['.', '.'] ∉ [['.', '.'], s] := by simp
          rw [or_iff_right hdots]
          exact hshort (by simp only [List.length_dropLast]; omega)
      | enter _ hdown' =>
          rw [List.dropLast_concat, List.dropLast_concat]
          simp [Ne.symm hdown, Ne.symm hdown']

/-- Whether `..` leads up from a change as far as its base specs are looked for along it. -/
def Climbs (t : FileTree) (change : Path) (place : List String) : Prop :=
  baseSpecs change = besideParent change → t.LetsUp place

/-- The folder of which the specs are the base specs, and when it is the right one. -/
theorem exists_project (hu : t.root.Unlinked) (htext : change.text ≠ "")
    (hplace : t.follow change = .ok ⟨place, linkLimit⟩) :
    ∃ project, (baseSpecs change).text ≠ "" ∧
      (Climbs t change place →
        t.follow (baseSpecs change) = t.walk ⟨project, linkLimit⟩ ["specs".toList]) ∧
      (project = place.dropLast.dropLast ↔ ¬ Misleads change ∨ project = []) := by
  have hspecs : split "specs".toList = ["specs".toList] := by decide
  rw [Climbs]
  unfold baseSpecs
  split
  · rename_i q hq
    obtain ⟨hbind, hqtext⟩ := Option.filter_eq_some_iff.mp hq
    obtain ⟨p, hp, hqp⟩ := Option.bind_eq_some_iff.mp hbind
    have hqtext : q.text ≠ "" := by simpa using hqtext
    have hptext : p.text ≠ "" := by
      intro hempty
      have hnil : parent? ⟨""⟩ = none := by decide
      have hpath : p = ⟨""⟩ := congrArg Path.mk hempty
      rw [hpath, hnil] at hqp
      cases hqp
    obtain ⟨above, u, habove, hstep, huidle, hucomponents⟩ :=
      exists_step_of_parent? hp hptext hplace
    obtain ⟨⟨project, links⟩, s, hproject, hstep', hsidle, hscomponents⟩ :=
      exists_step_of_parent? hqp hqtext habove
    cases links_of_walk hu hproject
    have hcomponents :
        change.components = (q.components.1, q.components.2 ++ [s, u]) := by
      rw [hucomponents, hscomponents]
      simp
    refine ⟨project, join_text_ne hqtext "specs", fun _ => ?_, ?_⟩
    · rw [follow_join hqtext (by decide), hproject, hspecs]
      rfl
    · rw [misleads_iff hqtext hcomponents]
      exact eq_dropLast_dropLast_iff (leads_of_step hu hstep').2.1 (leads_of_step hu hstep).2.1
        hsidle huidle
  · rename_i hnone
    exact ⟨place.dropLast.dropLast, join_text_ne (join_text_ne (join_text_ne htext "..") "..") _,
      fun hup => follow_besideParent htext hplace (hup rfl),
      iff_of_true rfl (Or.inl (not_misleads hnone))⟩

/-- The base spec for a delta file is where its capability leads from the base specs. -/
theorem follow_basePath {bases : Path} {f : DeltaFile} (hbases : bases.text ≠ "")
    (hf : f.capability.isAbsolute = false) :
    t.follow (Change.basePath bases f) =
      t.follow bases >>= (t.walk · (f.capability.segments ++ [specFile.toList])) := by
  have hspecFile : split specFile.toList = [specFile.toList] := by decide
  rw [Change.basePath, follow_join (join_text_ne hbases f.capability.text) (by decide),
    follow_join hbases hf, hspecFile, bind_assoc]
  congr 1
  funext spot
  exact (walk_append spot _ _).symm

/-- Which files are the base specs of a change: those beneath the specs of one folder, the
project. It is the one above the parent of the change unless the spelling misleads. -/
structure BaseSpecsSpec (t : FileTree) (change : Path) (place project : List String) : Prop where
  located : t.locate change = .ok place
  project_eq : project = place.dropLast.dropLast ↔ ¬ Misleads change ∨ project = []
  bases : Climbs t change place → (baseSpecs change).withinLimit = true →
    t.locate (baseSpecs change) = t.leadFrom project ["specs".toList]
  beside : t.LetsUp place → (besideParent change).withinLimit = true →
    t.locate (besideParent change) = t.leadFrom place.dropLast.dropLast ["specs".toList]
  file : Climbs t change place → ∀ f : DeltaFile, f.capability.isAbsolute = false →
    (Change.basePath (baseSpecs change) f).withinLimit = true →
    t.locate (Change.basePath (baseSpecs change) f) =
      t.leadFrom project ("specs".toList :: (f.capability.segments ++ [specFile.toList]))

theorem exists_baseSpecsSpec (hu : t.root.Unlinked) (hplace : t.locate change = .ok place) :
    ∃ project, BaseSpecsSpec t change place project := by
  obtain ⟨htext, links, hfollow⟩ := follow_of_locate hplace
  cases links_of_walk hu hfollow
  obtain ⟨project, hbases, hspecs, hproject⟩ := exists_project hu htext hfollow
  refine ⟨project, hplace, hproject, ?_, ?_, ?_⟩
  · intro hup hlimit
    rw [locate_eq_follow hlimit hbases, hspecs hup, leadFrom]
  · intro hup hlimit
    have hbeside := join_text_ne (join_text_ne (join_text_ne htext "..") "..") "specs"
    rw [locate_eq_follow hlimit hbeside, follow_besideParent htext hfollow hup, leadFrom]
    rfl
  · intro hup f hf hlimit
    have hbase := join_text_ne (join_text_ne hbases f.capability.text) specFile
    rw [locate_eq_follow hlimit hbase, follow_basePath hbases hf, hspecs hup, ← walk_append,
      leadFrom]
    rfl

theorem basePath_of_isAbsolute {f : DeltaFile} (h : f.capability.isAbsolute = true)
    (bases : Path) : Change.basePath bases f = f.capability.join specFile := by
  have hcapability : isAbsolute ⟨f.capability.text⟩ = true := h
  have hjoin : bases.join f.capability.text = f.capability := by rw [join, if_pos hcapability]
  rw [Change.basePath, hjoin]

/-- The base specs of a change are beneath the specs of one folder. Two spellings of the change
that do not mislead give every delta file the same base spec. -/
theorem baseSpecs_of_isFolder (hu : t.root.Unlinked) (h : t.isFolder change = true) :
    ∃ place project, BaseSpecsSpec t change place project ∧
      ∀ other : Path, t.locate other = .ok place → Climbs t change place → Climbs t other place →
        ¬ Misleads change → ¬ Misleads other →
          ∀ f : DeltaFile, (Change.basePath (baseSpecs change) f).withinLimit = true →
            (Change.basePath (baseSpecs other) f).withinLimit = true →
              t.readOptional (Change.basePath (baseSpecs change) f) =
                t.readOptional (Change.basePath (baseSpecs other) f) := by
  obtain ⟨place, hplace, -⟩ := isFolder_iff.mp h
  obtain ⟨project, hspec⟩ := exists_baseSpecsSpec hu hplace
  refine ⟨place, project, hspec, ?_⟩
  intro other hother hup hup' hchange hmisleads f hlimit hlimit'
  obtain ⟨project', hspec'⟩ := exists_baseSpecsSpec hu hother
  have hproject : project = project' := by
    rw [hspec.project_eq.mpr (Or.inl hchange), hspec'.project_eq.mpr (Or.inl hmisleads)]
  cases hf : f.capability.isAbsolute with
  | true => rw [basePath_of_isAbsolute hf, basePath_of_isAbsolute hf]
  | false =>
      rw [readOptional, readOptional, FileTree.read, FileTree.read, hspec.file hup f hf hlimit,
        hspec'.file hup' f hf hlimit', hproject]

theorem baseSpecs_of_two_spellings :
    let x := Node.folder .full [("specs", .folder .full [])]
    let cap := Node.folder .full [("spec.md", .file (.ok ByteArray.empty))]
    let t : FileTree :=
      ⟨.folder .full [("changes", .folder .full [("x", x)]),
        ("specs", .folder .full [("cap", cap)])], ["changes"]⟩
    t.root.Unlinked ∧ t.isFolder ⟨"/changes/x/."⟩ = true ∧
      t.locate ⟨"../changes/x"⟩ = .ok ["changes", "x"] ∧
      ∃ project, BaseSpecsSpec t ⟨"/changes/x/."⟩ ["changes", "x"] project ∧
        ∀ f : DeltaFile, f.capability = ⟨"cap"⟩ →
          t.readOptional (Change.basePath (baseSpecs ⟨"/changes/x/."⟩) f) =
            t.readOptional (Change.basePath (baseSpecs ⟨"../changes/x"⟩) f) := by
  intro x cap t
  have hu : t.root.Unlinked := by
    refine .folder _ _ ?_
    simp only [List.forall_mem_cons, List.not_mem_nil, false_imp_iff, implies_true, and_true]
    exact ⟨.singleton (.singleton (.folder _ [] (by simp))), .singleton (.singleton (.file _))⟩
  have hfolder : t.isFolder ⟨"/changes/x/."⟩ = true := by decide +kernel
  have hother : t.locate ⟨"../changes/x"⟩ = .ok ["changes", "x"] :=
    eq_ok_of_toOption (by decide +kernel)
  have hclimbs (change : Path) (h : baseSpecs change ≠ besideParent change) :
      Climbs t change ["changes", "x"] :=
    fun heq => absurd heq h
  obtain ⟨place, project, hspec, hread⟩ := baseSpecs_of_isFolder hu hfolder
  have hplace : place = ["changes", "x"] := by
    have hlocated := hspec.located
    have hchange : t.locate ⟨"/changes/x/."⟩ = .ok ["changes", "x"] :=
      eq_ok_of_toOption (by decide +kernel)
    rw [hchange] at hlocated
    exact (Except.ok.inj hlocated).symm
  subst hplace
  refine ⟨hu, hfolder, hother, project, hspec, fun f hf => ?_⟩
  apply hread _ hother (hclimbs _ (by decide)) (hclimbs _ (by decide)) (by decide) (by decide)
  · rw [Change.basePath, hf]
    decide
  · rw [Change.basePath, hf]
    decide

theorem not_forall_locate_baseSpecs :
    ¬ ∀ (t : FileTree) (change : Path), t.root.Unlinked → t.isFolder change = true →
      t.locate (baseSpecs change) = t.locate (besideParent change) := by
  intro h
  let t : FileTree :=
    ⟨.folder .full [("changes", .folder .full [("x", .folder .full [("specs",
      .folder .full [])])])], []⟩
  have hu : t.root.Unlinked :=
    .singleton (.singleton (.singleton (.folder _ [] (by simp))))
  have hlocate := h t ⟨"changes/x/specs/.."⟩ hu (by decide +kernel)
  have hbases : t.locate (baseSpecs ⟨"changes/x/specs/.."⟩) = .ok ["changes", "x", "specs"] :=
    eq_ok_of_toOption (by decide +kernel)
  rw [hbases] at hlocate
  have hbeside : (t.locate (besideParent ⟨"changes/x/specs/.."⟩)).toOption = none := by
    decide +kernel
  rw [← hlocate] at hbeside
  cases hbeside

end Project

end SpecReview
