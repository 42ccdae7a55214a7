import Mathlib.Data.Finset.Card
import SpecReview.Proofs.Review.Collision

/-! # A review of delta files in turn

The ledger of a run holds exactly the names that the files so far declare, each with the first
file that declares it. It follows that over a whole run the collisions in a role are as many as
the names in that role exceed the distinct ones, whatever the order of the files. -/

namespace SpecReview

/-- A file of a change with the delta in it. -/
structure Submission where
  file : Path
  delta : Delta

namespace Submission

/-- Reviews submissions in turn, from the ledger of those before. -/
def reviewAll : Ledger → List Submission → List Issue × Ledger
  | ledger, [] => ([], ledger)
  | ledger, s :: ss =>
    let (issues, ledger) := s.delta.review ledger s.file
    let (others, ledger) := reviewAll ledger ss
    (issues ++ others, ledger)

/-- What the reviews find, along with the files. -/
def findingsAll : Ledger → List Submission → List (Path × DeltaFinding)
  | _, [] => []
  | ledger, s :: ss =>
    (s.delta.findings ledger s.file).map (s.file, ·)
      ++ findingsAll (ledger.recordAll s.file s.delta.claims) ss

/-- The names that submissions declare in a role, repeats included. -/
def keysAll (role : Role) (ss : List Submission) : List String :=
  ss.flatMap (·.delta.keys role)

/-- The first file that declares a name in a role. -/
def declarer? (ss : List Submission) (c : Claim) : Option Path :=
  (ss.find? (c.name ∈ ·.delta.keys c.role)).map (·.file)

def collisionsAll (ledger : Ledger) (role : Role) (ss : List Submission) :
    List (String × Collision) :=
  (findingsAll ledger ss).filterMap (·.2.collisionIn? role)

variable {ledger : Ledger} {s : Submission} {ss : List Submission}

/-- A run reports its findings in order. -/
theorem reviewAll_fst (ledger : Ledger) (ss : List Submission) :
    (reviewAll ledger ss).1 = (findingsAll ledger ss).map fun (file, f) => f.toIssue file := by
  induction ss generalizing ledger with
  | nil => rfl
  | cons s ss ih =>
      have hstep : (reviewAll ledger (s :: ss)).1 =
          (s.delta.findings ledger s.file).map (·.toIssue s.file)
            ++ (reviewAll (ledger.recordAll s.file s.delta.claims) ss).1 := rfl
      rw [hstep, ih, findingsAll, List.map_append, List.map_map]
      rfl

theorem collisionsAll_cons (role : Role) :
    collisionsAll ledger role (s :: ss) =
      Delta.collisionsOf ledger s.file role [] (s.delta.keys role)
        ++ collisionsAll (ledger.recordAll s.file s.delta.claims) role ss := by
  rw [collisionsAll, findingsAll, List.filterMap_append, List.filterMap_map,
    ← Delta.filterMap_findings]
  rfl

/-! ## The ledger of a run -/

theorem declarer?_cons (c : Claim) :
    declarer? (s :: ss) c =
      (if c ∈ s.delta.claims then some s.file else none).or (declarer? ss c) := by
  obtain ⟨role, name⟩ := c
  simp only [declarer?, List.find?_cons, Delta.mem_claims_iff]
  by_cases h : name ∈ s.delta.keys role <;> simp [h]

/-- A collision with another file names the first file that declares the name, in the ledger or
in the run. -/
theorem declarer?_of_mem_findingsAll {role : Role} {file other : Path} {f : DeltaFinding}
    {name : String} (h : (file, f) ∈ findingsAll ledger ss)
    (hf : f.collisionIn? role = some (name, .alsoIn other)) :
    (ledger.holder? ⟨role, name⟩).or (declarer? ss ⟨role, name⟩) = some other := by
  induction ss generalizing ledger with
  | nil => simp [findingsAll] at h
  | cons s ss ih =>
      rw [findingsAll, List.mem_append] at h
      rcases h with h | h
      · obtain ⟨g, hg, he⟩ := List.mem_map.mp h
        obtain ⟨-, rfl⟩ := Prod.mk.inj he
        rw [Delta.holder?_of_collisionIn? hg hf, Option.some_or]
      · have ih := ih h
        rwa [Ledger.holder?_recordAll, Option.or_assoc, ← declarer?_cons] at ih

/-! ## Files that the ledger does not know -/

/-- The files of a run differ from each other and from those in the ledger. -/
structure Fresh (ledger : Ledger) (ss : List Submission) : Prop where
  distinct : ss.Pairwise fun s s' => s.file.same s'.file = false
  unheld : ∀ c p, ledger.holder? c = some p → ∀ s ∈ ss, p.same s.file = false

theorem fresh_empty (h : ss.Pairwise fun s s' => s.file.same s'.file = false) :
    Fresh Ledger.empty ss :=
  ⟨h, fun c p hp => by simp [Ledger.holder?_empty] at hp⟩

/-- The file that is reviewed first is new to those after it. -/
theorem Fresh.tail (h : Fresh ledger (s :: ss)) :
    Fresh (ledger.recordAll s.file s.delta.claims) ss := by
  obtain ⟨hs, hss⟩ := List.pairwise_cons.mp h.distinct
  refine ⟨hss, ?_⟩
  intro c p hp s' hs'
  rw [Ledger.holder?_recordAll] at hp
  cases hc : ledger.holder? c with
  | some q =>
      rw [hc, Option.some_or, Option.some.injEq] at hp
      exact h.unheld c p (hp ▸ hc) s' (List.mem_cons_of_mem s hs')
  | none =>
      rw [hc, Option.none_or] at hp
      split at hp
      · rw [Option.some.injEq] at hp
        exact hp ▸ hs s' hs'
      · simp at hp

theorem Fresh.otherHolder?_eq_holder? (h : Fresh ledger (s :: ss)) (c : Claim) :
    ledger.otherHolder? s.file c = ledger.holder? c := by
  unfold Ledger.otherHolder?
  cases hc : ledger.holder? c with
  | none => rfl
  | some p => simp [h.unheld c p hc s (by simp)]

/-! ## Counting collisions -/

/-- The names that the submissions are the first to declare in a role. -/
def newNamesAll (ledger : Ledger) (role : Role) (ss : List Submission) : Finset String :=
  (keysAll role ss).toFinset.filter fun n => ledger.holder? ⟨role, n⟩ = none

/-- A name that is new to a run is new in its first file, or new after that file. -/
theorem Fresh.newNamesAll_cons (h : Fresh ledger (s :: ss)) (role : Role) :
    newNamesAll ledger role (s :: ss) =
      Delta.newNames ledger s.file role [] (s.delta.keys role)
        ∪ newNamesAll (ledger.recordAll s.file s.delta.claims) role ss := by
  ext n
  simp only [newNamesAll, Delta.newNames, keysAll, List.flatMap_cons, List.toFinset_append,
    Finset.mem_filter, Finset.mem_union, List.mem_toFinset, List.not_mem_nil, not_false_eq_true,
    true_and, h.otherHolder?_eq_holder?, Ledger.holder?_recordAll, Delta.mem_claims_iff,
    Option.or_eq_none_iff, ite_eq_right_iff, reduceCtorEq, imp_false]
  tauto

theorem disjoint_newNames (role : Role) :
    Disjoint (Delta.newNames ledger s.file role [] (s.delta.keys role))
      (newNamesAll (ledger.recordAll s.file s.delta.claims) role ss) := by
  rw [Finset.disjoint_left]
  intro n hn hn'
  have hmem : n ∈ s.delta.keys role := List.mem_toFinset.mp (Finset.mem_filter.mp hn).1
  have hnone := (Finset.mem_filter.mp hn').2
  rw [Ledger.holder?_recordAll, if_pos (Delta.mem_claims_iff.mpr hmem)] at hnone
  simp at hnone

/-- Over a run each name either collides or is new. -/
theorem Fresh.length_collisionsAll (h : Fresh ledger ss) (role : Role) :
    (collisionsAll ledger role ss).length + (newNamesAll ledger role ss).card =
      (keysAll role ss).length := by
  induction ss generalizing ledger with
  | nil => simp [collisionsAll, findingsAll, newNamesAll, keysAll]
  | cons s ss ih =>
      have hfile : (Delta.collisionsOf ledger s.file role [] (s.delta.keys role)).length +
          (Delta.newNames ledger s.file role [] (s.delta.keys role)).card =
            (s.delta.keys role).length := Delta.length_collisionsOf [] (s.delta.keys role)
      have hrest := ih h.tail
      have hlength : (keysAll role (s :: ss)).length =
          (s.delta.keys role).length + (keysAll role ss).length := by
        simp [keysAll]
      -- What is new after the first file is not declared in it, so that nothing counts twice.
      rw [collisionsAll_cons, List.length_append, h.newNamesAll_cons,
        Finset.card_union_of_disjoint (disjoint_newNames role), hlength]
      omega

theorem newNamesAll_empty (role : Role) (ss : List Submission) :
    newNamesAll Ledger.empty role ss = (keysAll role ss).toFinset := by
  simp [newNamesAll, Ledger.holder?_empty]

theorem collisionsAll_eq_nil_iff (h : ss.Pairwise fun s s' => s.file.same s'.file = false)
    (role : Role) : collisionsAll Ledger.empty role ss = [] ↔ (keysAll role ss).Nodup := by
  have hcount := (fresh_empty h).length_collisionsAll role
  rw [newNamesAll_empty] at hcount
  rw [← List.length_eq_zero_iff]
  constructor
  · intro hzero
    have hcard : (Multiset.toFinset (keysAll role ss : Multiset String)).card =
        (keysAll role ss : Multiset String).card := by
      rw [List.toFinset_coe, Multiset.coe_card]
      omega
    exact Multiset.coe_nodup.mp (Multiset.toFinset_card_eq_card_iff_nodup.mp hcard)
  · intro hnodup
    rw [List.toFinset_card_of_nodup hnodup] at hcount
    omega

/-! ## Collisions over a run -/

theorem pairwise_same_perm {ss ss' : List Submission} (hp : ss'.Perm ss)
    (h : ss.Pairwise fun s s' => s.file.same s'.file = false) :
    ss'.Pairwise fun s s' => s.file.same s'.file = false := by
  refine (hp.pairwise_iff fun {s s'} hs => ?_).mpr h
  simpa [Path.same, eq_comm] using hs

/-- When different files are reviewed in turn, the collisions in a role are as many as the names
in it exceed the distinct ones, in any order of the files. A name that is declared in several
files is traced to the first of them. -/
theorem collisions_of_run {ss : List Submission}
    (h : ss.Pairwise fun s s' => s.file.same s'.file = false) (role : Role) :
    (reviewAll Ledger.empty ss).1 =
      (findingsAll Ledger.empty ss).map (fun (file, f) => f.toIssue file) ∧
    (collisionsAll Ledger.empty role ss).length =
      (keysAll role ss).length - (keysAll role ss).toFinset.card ∧
    (∀ ss', ss'.Perm ss → (collisionsAll Ledger.empty role ss').length =
      (collisionsAll Ledger.empty role ss).length) ∧
    ∀ file f name other, (file, f) ∈ findingsAll Ledger.empty ss →
      f.collisionIn? role = some (name, .alsoIn other) →
      declarer? ss ⟨role, name⟩ = some other ∧
      ∃ start, f.message file =
        start ++ " in multiple files: " ++ other.text ++ " and " ++ file.text := by
  have hcount (ss : List Submission)
      (h : ss.Pairwise fun s s' => s.file.same s'.file = false) :
      (collisionsAll Ledger.empty role ss).length =
        (keysAll role ss).length - (keysAll role ss).toFinset.card := by
    have hlength := (fresh_empty h).length_collisionsAll role
    rw [newNamesAll_empty] at hlength
    omega
  refine ⟨reviewAll_fst _ _, hcount ss h, ?_, ?_⟩
  · intro ss' hp
    have hkeys : (keysAll role ss').Perm (keysAll role ss) := hp.flatMap_right _
    rw [hcount ss' (pairwise_same_perm hp h), hcount ss h, hkeys.length_eq,
      List.toFinset_eq_of_perm _ _ hkeys]
  · intro file f name other hmem hf
    refine ⟨?_, DeltaFinding.message_of_collisionIn? hf file⟩
    simpa [Ledger.holder?_empty] using declarer?_of_mem_findingsAll hmem hf

/-- Of four names two repeat the first one, one of them in the other file. -/
theorem collisions_of_two_files :
    let a : Submission :=
      ⟨⟨"a.md"⟩, .ofText "## ADDED Requirements\n### Requirement: A\n### Requirement: a"⟩
    let b : Submission :=
      ⟨⟨"b.md"⟩, .ofText "## ADDED Requirements\n### Requirement: B\n### Requirement: A"⟩
    ([a, b].Pairwise fun s s' => s.file.same s'.file = false) ∧
      (collisionsAll Ledger.empty .added [a, b]).length = 4 - 2 ∧
      declarer? [a, b] ⟨.added, "a"⟩ = some a.file := by
  intro a b
  have h : [a, b].Pairwise fun s s' => s.file.same s'.file = false := by decide +kernel
  obtain ⟨-, hcount, -, hfirst⟩ := collisions_of_run h .added
  refine ⟨h, ?_, ?_⟩
  · rw [hcount]
    decide +kernel
  · have hmem : (b.file, .collision .added ⟨"A", 3, "", []⟩ (.alsoIn a.file)) ∈
        findingsAll Ledger.empty [a, b] := by decide +kernel
    exact (hfirst b.file _ "a" a.file hmem (by decide +kernel)).1

end Submission

end SpecReview
