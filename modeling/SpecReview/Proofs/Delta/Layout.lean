import Mathlib.Data.List.Nodup
import Mathlib.Logic.Relation
import SpecReview.Proofs.Delta.Unnumbered
import SpecReview.Proofs.Section.Surviving
import SpecReview.Proofs.Text.Trimming

/-! # Layouts of a delta

The sections of a delta can stand in any order and among any others: as long as no operation has
two of them, neither what the delta declares nor what comes of it changes but for line numbers. -/

namespace SpecReview

open Text

/-- A section as it is written: whole lines, the first of them its heading and no other a section
heading. -/
structure Part where
  text : String
  name : String
  terminated : Terminated text.toList
  opens : (lines text.toList).head?.bind Section.opening? = some name
  unbroken : ∀ l ∈ (lines text.toList).tail, Section.opening? l = none

namespace Part

variable (p : Part)

def heading : List Char :=
  (lines p.text.toList).headD []

def body : List (List Char) :=
  (lines p.text.toList).tail

/-- The operation of the heading, if it is one. -/
def operation? : Option Operation :=
  Operation.ofHeading? p.name

theorem lines_text : lines p.text.toList = p.heading :: p.body := by
  have h := p.opens
  rw [heading, body]
  cases hlines : lines p.text.toList with
  | nil => simp [hlines] at h
  | cons l ls => rfl

theorem opening?_heading : Section.opening? p.heading = some p.name := by
  have h := p.opens
  rwa [lines_text] at h

theorem wholeLines : WholeLines p.text.toList (p.heading :: p.body) :=
  p.lines_text ▸ p.terminated.wholeLines

/-- The parts among some that declare an operation. -/
def declaring (op : Operation) (ps : List Part) : List Part :=
  ps.filter (·.operation? = some op)

end Part

/-- A text as it is laid out: parts after lines that are no section headings. -/
structure Layout where
  preamble : String
  parts : List Part
  terminated : Terminated preamble.toList
  unbroken : ∀ l ∈ lines preamble.toList, Section.opening? l = none

/-- One change of layout: the parts come in another order, or there is one more or one less of
those that declare no operation. -/
inductive Part.Edit : List Part → List Part → Prop
  | permute {ps qs : List Part} (h : ps.Perm qs) : Edit ps qs
  | insert (before after : List Part) {p : Part} (h : p.operation? = none) :
    Edit (before ++ after) (before ++ p :: after)
  | delete (before after : List Part) {p : Part} (h : p.operation? = none) :
    Edit (before ++ p :: after) (before ++ after)

namespace Part

/-- Whether a number of changes leads from some parts to others. -/
def Rearranged : List Part → List Part → Prop :=
  Relation.ReflTransGen Edit

/-- No operation has two parts. -/
def Unambiguous (ps : List Part) : Prop :=
  (ps.filterMap operation?).Nodup

instance : DecidablePred Unambiguous :=
  fun _ => inferInstanceAs (Decidable (List.Nodup _))

variable {ps qs : List Part} (op : Operation)

theorem declaring_append_cons {p : Part} (h : p.operation? = none) :
    declaring op (ps ++ p :: qs) = declaring op (ps ++ qs) := by
  simp [declaring, h]

/-- One change leaves the parts of an operation, up to their order. -/
theorem Edit.perm_declaring (h : Edit ps qs) : (declaring op ps).Perm (declaring op qs) := by
  cases h with
  | permute h => exact h.filter _
  | insert before after h => rw [declaring_append_cons op h]
  | delete before after h => rw [declaring_append_cons op h]

theorem Rearranged.perm_declaring (h : Rearranged ps qs) :
    (declaring op ps).Perm (declaring op qs) := by
  induction h with
  | refl => rfl
  | tail _ hedit ih => exact ih.trans (hedit.perm_declaring op)

theorem Unambiguous.length_declaring_le_one (h : Unambiguous ps) :
    (declaring op ps).length ≤ 1 := by
  have hcount := List.nodup_iff_count_le_one.mp h op
  rw [List.count_filterMap] at hcount
  rw [declaring, ← List.countP_eq_length_filter]
  simpa only [beq_eq_decide] using hcount

/-- Of at most one part there is no other order. -/
theorem Rearranged.declaring_eq (h : Rearranged ps qs) (hops : Unambiguous ps) :
    declaring op ps = declaring op qs := by
  have hperm := h.perm_declaring op
  match hps : declaring op ps, hops.length_declaring_le_one op with
  | [], _ =>
      rw [hps] at hperm
      exact (List.nil_perm.mp hperm).symm
  | [p], _ =>
      rw [hps] at hperm
      exact (List.singleton_perm.mp hperm)

end Part

namespace Layout

variable (a : Layout)

def text : String :=
  a.preamble ++ a.parts.foldr (fun p rest => p.text ++ rest) ""

theorem lines_text : lines a.text.toList =
    lines a.preamble.toList ++ a.parts.flatMap fun p => p.heading :: p.body := by
  have hparts := WholeLines.foldr fun p (_ : p ∈ a.parts) => p.wholeLines
  rw [text, String.toList_append]
  exact (a.terminated.wholeLines.append hparts).lines_eq

theorem map_written_text : (Section.written a.text).map (fun s => (s.name, s.lines)) =
    a.parts.map fun p => (p.name, p.body) :=
  Section.map_written a.lines_text a.unbroken (fun p _ => p.opening?_heading)
    fun p _ => p.unbroken

/-- The lines of an operation are those of the last part that declares it. -/
theorem map_lines_sectionOf (op : Operation) :
    (Delta.sectionOf op (Section.inText a.text)).map (·.lines) =
      (Part.declaring op a.parts).getLast?.map (·.body) := by
  have hlines := congrArg (Option.map Prod.snd) (Delta.map_sectionOf a.map_written_text op)
  rw [Option.map_map, Option.map_map] at hlines
  rw [Delta.sectionOf_inText, Part.declaring, List.getLast?_eq_head?_reverse, ← List.filter_reverse,
    List.head?_filter]
  exact hlines

variable (b : Layout)

theorem unnumbered_ofText_text (hops : Part.Unambiguous a.parts)
    (h : Part.Rearranged a.parts b.parts) :
    (Delta.ofText a.text).unnumbered = (Delta.ofText b.text).unnumbered := by
  refine Delta.unnumbered_ofText_congr fun op => ?_
  rw [map_lines_sectionOf, map_lines_sectionOf, h.declaring_eq op hops]

/-- A layout does not matter. Two texts with the same parts for the operations, in any order and
among any other parts, declare the same but for line numbers; after any reviews before, they have
the same issues but for line numbers and leave the same ledger; and the same stands in the way of
merging them into any base spec. -/
theorem delta_of_rearranged (hops : Part.Unambiguous a.parts)
    (h : Part.Rearranged a.parts b.parts) :
    let d := Delta.ofText a.text
    let d' := Delta.ofText b.text
    d.unnumbered = d'.unnumbered ∧
      (∀ ledger file,
        (d.review ledger file).1.map (·.unnumbered) =
            (d'.review ledger file).1.map (·.unnumbered) ∧
          (d.review ledger file).2 = (d'.review ledger file).2) ∧
      ∀ base, d.obstacle? base = d'.obstacle? base := by
  intro d d'
  have hd : d.unnumbered = d'.unnumbered := unnumbered_ofText_text a b hops h
  refine ⟨hd, Delta.review_congr hd, fun base => ?_⟩
  rw [← d.obstacle?_unnumbered, hd, d'.obstacle?_unnumbered]

/-- The notes and the lines ahead go, and what is added comes after what is removed. The
requirement to add moves from line 3 to line 4. -/
theorem delta_of_rearranged_without_notes :
    let added : Part := ⟨"## ADDED Requirements\n### Requirement: A\n", "ADDED Requirements",
      by decide +kernel, by decide +kernel, by decide +kernel⟩
    let notes : Part := ⟨"## Notes\n### Requirement: N\n", "Notes",
      by decide +kernel, by decide +kernel, by decide +kernel⟩
    let removed : Part := ⟨"## removed requirements\n### Requirement: B\n",
      "removed requirements", by decide +kernel, by decide +kernel, by decide +kernel⟩
    let a : Layout := ⟨"# Changes\n", [added, notes, removed], by decide +kernel, by decide +kernel⟩
    let b : Layout := ⟨"", [removed, added], by decide +kernel, by decide +kernel⟩
    let d := Delta.ofText a.text
    let d' := Delta.ofText b.text
    Part.Unambiguous a.parts ∧ Part.Rearranged a.parts b.parts ∧
      d.added = some ⟨2, [⟨"A", 3, "", []⟩]⟩ ∧ d'.added = some ⟨3, [⟨"A", 4, "", []⟩]⟩ ∧
      d.unnumbered = d'.unnumbered ∧
      (∀ ledger file,
        (d.review ledger file).1.map (·.unnumbered) =
            (d'.review ledger file).1.map (·.unnumbered) ∧
          (d.review ledger file).2 = (d'.review ledger file).2) ∧
      ∀ base, d.obstacle? base = d'.obstacle? base := by
  intro added notes removed a b d d'
  have hops : Part.Unambiguous a.parts := by decide +kernel
  have hnotes : Part.Edit a.parts [added, removed] := .delete [added] [removed] (by decide +kernel)
  have hswap : Part.Edit [added, removed] b.parts := .permute (.swap removed added [])
  have h : Part.Rearranged a.parts b.parts := .tail (.single hnotes) hswap
  exact ⟨hops, h, by decide +kernel, by decide +kernel, delta_of_rearranged a b hops h⟩

end Layout

end SpecReview
