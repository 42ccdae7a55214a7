import Mathlib.Data.List.Forall2
import Mathlib.Data.List.Nodup
import Mathlib.Tactic.MkIffOfInductiveProp
import SpecReview.Proofs.Section.Surviving

/-! # Deltas written out

A delta written section by section, entry by entry, is read back from its text: the same sections
with the same entries, whatever the lines that they come to stand on. -/

namespace SpecReview

open Text

/-! ## Written form -/

def Operation.heading (op : Operation) : String :=
  op.keyword ++ " Requirements"

/-- A requirement as text: its heading, its content and a blank line. -/
def Requirement.render (r : Requirement) : String :=
  "### Requirement: " ++ r.name ++ "\n" ++ r.content ++ "\n\n"

/-- A rename as text: its two names, as headings in backticks. -/
def Rename.render (r : Rename) : String :=
  "- FROM: `### Requirement: " ++ r.source ++ "`\n- TO: `### Requirement: " ++ r.target ++ "`\n"

/-- A section as text, if it is there. -/
def Declared.render {α : Type} (op : Operation) (entry : α → String) :
    Option (Declared α) → String
  | none => ""
  | some s => "## " ++ op.heading ++ "\n" ++ s.entries.foldr (fun x rest => entry x ++ rest) ""

namespace Delta

def renderSection (d : Delta) : Operation → String
  | .added => Declared.render .added Requirement.render d.added
  | .modified => Declared.render .modified Requirement.render d.modified
  | .removed => Declared.render .removed Requirement.render d.removed
  | .renamed => Declared.render .renamed Rename.render d.renamed

def render (d : Delta) : String :=
  Operation.all.foldr (fun op rest => d.renderSection op ++ rest) ""

end Delta

/-! ## What can be written -/

/-- A name that can stand on a line. -/
@[mk_iff]
structure Name.Writable (name : String) : Prop where
  ne_empty : name ≠ ""
  trimmed : trim name.toList = name.toList
  no_newline : '\n' ∉ name.toList

/-- A requirement of which the content would neither lose anything to trimming nor end early. -/
@[mk_iff]
structure Requirement.Writable (r : Requirement) : Prop where
  name : Name.Writable r.name
  trimmed : trim r.content.toList = r.content.toList
  no_return : '\r' ∉ r.content.toList
  unbroken : ∀ l ∈ lines r.content.toList, opening? l = none ∧ closes l = false

@[mk_iff]
structure Rename.Writable (r : Rename) : Prop where
  source : Name.Writable r.source
  target : Name.Writable r.target

@[mk_iff]
structure Delta.Writable (d : Delta) : Prop where
  added : ∀ s ∈ d.added, ∀ r ∈ s.entries, r.Writable
  modified : ∀ s ∈ d.modified, ∀ r ∈ s.entries, r.Writable
  removed : ∀ s ∈ d.removed, ∀ r ∈ s.entries, r.Writable
  renamed : ∀ s ∈ d.renamed, ∀ r ∈ s.entries, r.Writable

instance : DecidablePred Name.Writable :=
  fun _ => decidable_of_iff _ (Name.writable_iff _).symm

instance : DecidablePred Requirement.Writable :=
  fun _ => decidable_of_iff _ (Requirement.writable_iff _).symm

instance : DecidablePred Rename.Writable :=
  fun _ => decidable_of_iff _ (Rename.writable_iff _).symm

instance : DecidablePred Delta.Writable :=
  fun _ => decidable_of_iff _ (Delta.writable_iff _).symm

/-! ## What is read back -/

/-- A requirement that says the same, wherever it stands. -/
structure Requirement.ReadBack (r r' : Requirement) : Prop where
  name : r'.name = r.name
  content : r'.content = r.content
  scenarios : r'.scenarios = Scenario.inText r.content
  markers : r'.markers.map (·.text) =
    ((lines r.content.toList).filter (Line.kind · = .malformedScenario)).map
      fun l => String.ofList (trim l)

structure Rename.ReadBack (r r' : Rename) : Prop where
  source : r'.source = r.source
  target : r'.target = r.target

/-- A section that is absent in both deltas, or in both with the same entries. -/
def Declared.ReadBack {α : Type} (entry : α → α → Prop) (s s' : Option (Declared α)) : Prop :=
  Option.Rel (fun s s' => List.Forall₂ entry s.entries s'.entries) s s'

structure Delta.ReadBack (d d' : Delta) : Prop where
  added : Declared.ReadBack Requirement.ReadBack d.added d'.added
  modified : Declared.ReadBack Requirement.ReadBack d.modified d'.modified
  removed : Declared.ReadBack Requirement.ReadBack d.removed d'.removed
  renamed : Declared.ReadBack Rename.ReadBack d.renamed d'.renamed

/-! ## Names on lines -/

namespace Name.Writable

variable {name : String}

theorem exists_cons (h : Writable name) :
    ∃ c cs, name.toList = c :: cs ∧ isBlank c = false := by
  have hne : name.toList ≠ [] := by simpa using h.ne_empty
  obtain ⟨c, cs, hcs⟩ := List.exists_cons_of_ne_nil hne
  have hstart := (trimStart_and_trimEnd_of_trim h.trimmed).1
  rw [hcs] at hstart
  exact ⟨c, cs, hcs, isBlank_of_trimStart_cons hstart⟩

theorem trimStart_append (h : Writable name) (cs : List Char) :
    trimStart (name.toList ++ cs) = name.toList ++ cs := by
  obtain ⟨c, ds, hds, hc⟩ := h.exists_cons
  rw [hds, List.cons_append, trimStart_cons_of_not_blank hc]

theorem named?_eq (h : Writable name) : Line.named? (' ' :: name.toList) = some name := by
  have htrim : trim (' ' :: name.toList) = name.toList := by
    have hblank : trimStart (' ' :: name.toList) = trimStart name.toList := rfl
    rw [trim, hblank, ← trim, h.trimmed]
  obtain ⟨c, cs, hcs, -⟩ := h.exists_cons
  rw [Line.named?, htrim, hcs]
  simp [← hcs]

theorem getLast?_append (h : Writable name) (cs : List Char) :
    (cs ++ name.toList).getLast? = name.toList.getLast? := by
  obtain ⟨c, ds, hds, -⟩ := h.exists_cons
  rw [hds, List.getLast?_append_of_ne_nil cs (List.cons_ne_nil c ds)]

theorem getLast?_ne_return (h : Writable name) : name.toList.getLast? ≠ some '\r' := by
  intro hlast
  rw [← (trimStart_and_trimEnd_of_trim h.trimmed).2] at hlast
  exact absurd (isBlank_of_getLast?_trimEnd hlast) (by decide)

end Name.Writable

/-! ## Requirements -/

namespace Requirement

def headLine (r : Requirement) : List Char :=
  ("### Requirement: " ++ r.name).toList

/-- The lines of the content, of which there is one even if the content is empty. -/
def contentLines (r : Requirement) : List (List Char) :=
  if r.content = "" then [[]] else lines r.content.toList

def bodyLines (r : Requirement) : List (List Char) :=
  r.contentLines ++ [[]]

variable {r : Requirement}

theorem of_mem_contentLines {l : List Char} (hl : l ∈ r.contentLines) :
    l = [] ∨ l ∈ lines r.content.toList := by
  unfold contentLines at hl
  split at hl
  · exact Or.inl (List.mem_singleton.mp hl)
  · exact Or.inr hl

theorem newline_notMem_of_mem_contentLines : ∀ l ∈ r.contentLines, '\n' ∉ l := by
  intro l hl
  rcases of_mem_contentLines hl with rfl | hl
  · simp
  · exact newline_notMem_of_mem_lines hl

theorem opening?_headLine (h : Name.Writable r.name) : opening? r.headLine = some r.name := by
  have hmark : Line.marked? 3 "Requirement:" ("### Requirement: ".toList ++ r.name.toList) =
      some (' ' :: r.name.toList) := rfl
  rw [opening?_eq, headLine, String.toList_append, Line.requirementName?, hmark, Option.bind_some,
    h.named?_eq]

theorem wholeLines_headLine (h : Name.Writable r.name) :
    WholeLines (r.headLine ++ ['\n']) [r.headLine] := by
  refine WholeLines.line ?_ ?_
  · rw [headLine, String.toList_append, List.mem_append, not_or]
    exact ⟨by decide, h.no_newline⟩
  · rw [headLine, String.toList_append, h.getLast?_append]
    exact h.getLast?_ne_return

namespace Writable

theorem joinLines_lines_content (h : r.Writable) :
    joinLines (lines r.content.toList) = r.content.toList := by
  refine joinLines_lines h.no_return ?_
  intro hlast
  rw [← (trimStart_and_trimEnd_of_trim h.trimmed).2] at hlast
  exact absurd (isBlank_of_getLast?_trimEnd hlast) (by decide)

theorem joinLines_contentLines (h : r.Writable) :
    joinLines r.contentLines = r.content.toList := by
  unfold contentLines
  split
  · rename_i hempty
    rw [hempty]
    rfl
  · exact h.joinLines_lines_content

theorem contentLines_ne_nil (h : r.Writable) : r.contentLines ≠ [] := by
  unfold contentLines
  split
  · simp
  · rename_i hne
    intro hnil
    have hcontent := h.joinLines_lines_content
    rw [hnil] at hcontent
    exact hne (String.toList_eq_nil_iff.mp hcontent.symm)

theorem getLast?_ne_return (h : r.Writable) : ∀ l ∈ r.contentLines, l.getLast? ≠ some '\r' := by
  intro l hl hlast
  have hmem := mem_joinLines hl (List.mem_of_getLast? hlast)
  rw [h.joinLines_contentLines] at hmem
  exact h.no_return hmem

theorem unbroken_bodyLines (h : r.Writable) :
    ∀ l ∈ r.bodyLines, opening? l = none ∧ closes l = false := by
  intro l hl
  have hnil : opening? [] = none ∧ closes [] = false := by decide
  rcases List.mem_append.mp hl with hl | hl
  · rcases of_mem_contentLines hl with rfl | hl
    · exact hnil
    · exact h.unbroken l hl
  · rwa [List.mem_singleton.mp hl]

theorem wholeLines_render (h : r.Writable) :
    WholeLines r.render.toList (r.headLine :: r.bodyLines) := by
  have hbody : WholeLines (joinLines r.contentLines ++ ['\n']) r.contentLines :=
    WholeLines.joinLines h.contentLines_ne_nil newline_notMem_of_mem_contentLines
      h.getLast?_ne_return
  have hblank : WholeLines ['\n'] [[]] := fun _ => rfl
  rw [h.joinLines_contentLines] at hbody
  have htext : r.render = "### Requirement: " ++ r.name ++ "\n" ++ r.content ++ "\n\n" := rfl
  have hrender : r.render.toList =
      (r.headLine ++ ['\n']) ++ ((r.content.toList ++ ['\n']) ++ ['\n']) := by
    rw [htext]
    simp [headLine]
  rw [hrender]
  exact (wholeLines_headLine h.name).append (hbody.append hblank)

theorem opening?_eq_none (h : r.Writable) :
    ∀ l ∈ r.headLine :: r.bodyLines, Section.opening? l = none := by
  intro l hl
  rcases List.mem_cons.mp hl with rfl | hl
  · rw [Section.opening?_eq, headLine, String.toList_append]
    rfl
  · exact Section.opening?_of_closes (h.unbroken_bodyLines l hl).2

end Writable

/-! ### Reading requirements back -/

theorem map_text_markersIn (n : Nat) (ls : List (List Char)) :
    (markersIn (numberFrom n ls)).map (·.text) =
      (ls.filter (Line.kind · = .malformedScenario)).map fun l => String.ofList (trim l) := by
  induction ls generalizing n with
  | nil => rfl
  | cons l ls ih =>
      rw [numberFrom, markersIn, List.filter_cons, List.filter_cons]
      by_cases h : Line.kind l = .malformedScenario
      · simpa [h, markersIn] using ih (n + 1)
      · simpa [h, markersIn] using ih (n + 1)

theorem Writable.readBack_ofBlock (h : r.Writable) {b : Block String} (hhead : b.head = r.name)
    (hbody : b.body = r.bodyLines) : r.ReadBack (ofBlock b) := by
  have hcontent : (ofBlock b).content = r.content := by
    have htrim : trim (joinLines r.bodyLines) = r.content.toList := by
      rw [bodyLines, joinLines_append_nil h.contentLines_ne_nil, h.joinLines_contentLines,
        trim_append_of_blank (by simp), h.trimmed]
    rw [ofBlock, hbody, htrim, String.ofList_toList]
  refine ⟨hhead, hcontent, by rw [scenarios, hcontent], ?_⟩
  have hfilter : r.bodyLines.filter (Line.kind · = .malformedScenario) =
      (lines r.content.toList).filter (Line.kind · = .malformedScenario) := by
    have hnil : ([[]] : List (List Char)).filter (Line.kind · = .malformedScenario) = [] := by
      decide
    rw [bodyLines, List.filter_append, hnil, List.append_nil, contentLines]
    split
    · rename_i hempty
      rw [hnil, hempty]
      rfl
    · rfl
  rw [ofBlock, Block.numbered, map_text_markersIn, hbody, hfilter]

theorem forall₂_readBack {rs : List Requirement} (h : ∀ r ∈ rs, r.Writable) (n : Nat) :
    List.Forall₂ ReadBack rs (inLines n (rs.flatMap fun r => r.headLine :: r.bodyLines)) := by
  have hblocks := Block.forall₂_all_flatMap (fun r hr => opening?_headLine (h r hr).name)
    (fun r hr => (h r hr).unbroken_bodyLines) n
  rw [inLines, List.forall₂_map_right_iff]
  refine (List.forall₂_and_left _ _ |>.mpr ⟨h, hblocks⟩).imp ?_
  rintro r b ⟨hr, hhead, hbody⟩
  exact hr.readBack_ofBlock hhead hbody

end Requirement

/-! ## Renames -/

namespace Rename

def sourceLine (r : Rename) : List Char :=
  ("- FROM: `### Requirement: " ++ r.source ++ "`").toList

def targetLine (r : Rename) : List Char :=
  ("- TO: `### Requirement: " ++ r.target ++ "`").toList

theorem sideName_eq {name : String} (h : Name.Writable name) :
    sideName (" `### Requirement: ".toList ++ (name.toList ++ ['\x60'])) = name := by
  have hrest : trimStart (skipHeading (trimStart (skipMark '\x60'
      (" `### Requirement: ".toList ++ (name.toList ++ ['\x60']))))) =
      name.toList ++ ['\x60'] := by
    have hskip : skipHeading (trimStart (skipMark '\x60'
        (" `### Requirement: ".toList ++ (name.toList ++ ['\x60'])))) =
        ' ' :: (name.toList ++ ['\x60']) := rfl
    have hblank : trimStart (' ' :: (name.toList ++ ['\x60'])) =
        trimStart (name.toList ++ ['\x60']) := rfl
    rw [hskip, hblank, h.trimStart_append]
  have hmark : skipMark '\x60' (name.toList ++ ['\x60']).reverse = name.toList.reverse := by
    rw [List.reverse_append]
    rfl
  rw [sideName, hrest, hmark, List.reverse_reverse, (trimStart_and_trimEnd_of_trim h.trimmed).2,
    String.ofList_toList]

theorem source?_targetLine (r : Rename) : source? r.targetLine = none := by
  rw [targetLine, String.toList_append, String.toList_append]
  rfl

theorem opening?_eq_none (r : Rename) :
    ∀ l ∈ [r.sourceLine, r.targetLine], Section.opening? l = none := by
  intro l hl
  rw [Section.opening?_eq]
  rcases List.mem_cons.mp hl with rfl | hl
  · rw [sourceLine, String.toList_append, String.toList_append]
    rfl
  · rw [List.mem_singleton.mp hl, targetLine, String.toList_append, String.toList_append]
    rfl

namespace Writable

variable {r : Rename}

theorem source?_sourceLine (h : r.Writable) : source? r.sourceLine = some r.source := by
  have hside : source? ("- FROM: `### Requirement: ".toList ++ (r.source.toList ++ ['\x60'])) =
      some (sideName (" `### Requirement: ".toList ++ (r.source.toList ++ ['\x60']))) := rfl
  rw [sourceLine, String.toList_append, String.toList_append, List.append_assoc]
  exact hside.trans (congrArg some (sideName_eq h.source))

theorem target?_targetLine (h : r.Writable) : target? r.targetLine = some r.target := by
  have hside : target? ("- TO: `### Requirement: ".toList ++ (r.target.toList ++ ['\x60'])) =
      some (sideName (" `### Requirement: ".toList ++ (r.target.toList ++ ['\x60']))) := rfl
  rw [targetLine, String.toList_append, String.toList_append, List.append_assoc]
  exact hside.trans (congrArg some (sideName_eq h.target))

theorem wholeLines_render (h : r.Writable) :
    WholeLines r.render.toList [r.sourceLine, r.targetLine] := by
  have hmark : "`".toList = ['\x60'] := rfl
  have hsource : WholeLines (r.sourceLine ++ ['\n']) [r.sourceLine] := by
    refine WholeLines.line ?_ ?_
    · simpa [sourceLine] using h.source.no_newline
    · rw [sourceLine, String.toList_append, hmark, List.getLast?_concat]
      decide
  have htarget : WholeLines (r.targetLine ++ ['\n']) [r.targetLine] := by
    refine WholeLines.line ?_ ?_
    · simpa [targetLine] using h.target.no_newline
    · rw [targetLine, String.toList_append, hmark, List.getLast?_concat]
      decide
  have htext : r.render = "- FROM: `### Requirement: " ++ r.source
      ++ "`\n- TO: `### Requirement: " ++ r.target ++ "`\n" := rfl
  have hrender : r.render.toList = (r.sourceLine ++ ['\n']) ++ (r.targetLine ++ ['\n']) := by
    rw [htext]
    simp [sourceLine, targetLine]
  rw [hrender]
  exact hsource.append htarget

end Writable

theorem forall₂_readBack {rs : List Rename} (h : ∀ r ∈ rs, r.Writable) (n : Nat) :
    List.Forall₂ ReadBack rs
      (inLines (numberFrom n (rs.flatMap fun r => [r.sourceLine, r.targetLine]))) := by
  induction rs generalizing n with
  | nil => exact .nil
  | cons r rs ih =>
      have hr := h r (by simp)
      have hstep : inLines (numberFrom n ((r :: rs).flatMap fun r => [r.sourceLine, r.targetLine])) =
          ⟨r.source, r.target, n⟩ ::
            inLines (numberFrom (n + 2) (rs.flatMap fun r => [r.sourceLine, r.targetLine])) := by
        rw [List.flatMap_cons, List.cons_append, List.cons_append, numberFrom, numberFrom, inLines,
          pair, hr.source?_sourceLine]
        simp only
        rw [pair, source?_targetLine, hr.target?_targetLine]
        rfl
      rw [hstep]
      exact .cons ⟨rfl, rfl⟩ (ih (fun r' hr' => h r' (List.mem_cons_of_mem r hr')) (n + 2))

end Rename

/-! ## Sections -/

namespace Operation

def headLine (op : Operation) : List Char :=
  ("## " ++ op.heading).toList

theorem opening?_headLine (op : Operation) : Section.opening? op.headLine = some op.heading := by
  cases op <;> decide +kernel

theorem wholeLines_headLine (op : Operation) :
    WholeLines (op.headLine ++ ['\n']) [op.headLine] := by
  refine WholeLines.line ?_ ?_ <;> cases op <;> decide +kernel

theorem ofHeading?_heading (op : Operation) : ofHeading? op.heading = some op := by
  cases op <;> decide +kernel

end Operation

/-- What the text of a section comes to in lines: nothing, or a heading and lines that are no
section headings. -/
def Operation.WrittenAs (op : Operation) (text : String) : Option (List (List Char)) → Prop
  | none => text = ""
  | some body =>
    WholeLines text.toList (op.headLine :: body) ∧ ∀ l ∈ body, Section.opening? l = none

theorem Declared.writtenAs {α : Type} {entry : α → String} {rows : α → List (List Char)}
    (op : Operation) {s : Option (Declared α)}
    (h : ∀ t ∈ s, ∀ x ∈ t.entries, WholeLines (entry x).toList (rows x) ∧
      ∀ l ∈ rows x, Section.opening? l = none) :
    op.WrittenAs (Declared.render op entry s) (s.map fun t => t.entries.flatMap rows) := by
  cases s with
  | none => rfl
  | some t =>
      have ht := h t rfl
      refine ⟨?_, ?_⟩
      · have hrender : (Declared.render op entry (some t)).toList = (op.headLine ++ ['\n']) ++
            (t.entries.foldr (fun x rest => entry x ++ rest) "").toList := by
          rw [Declared.render]
          simp [Operation.headLine]
        rw [hrender]
        exact op.wholeLines_headLine.append (WholeLines.foldr fun x hx => (ht x hx).1)
      · intro l hl
        obtain ⟨x, hx, hl⟩ := List.mem_flatMap.mp hl
        exact (ht x hx).2 l hl

namespace Delta

/-- The lines below the heading of an operation. -/
def bodyLines? (d : Delta) : Operation → Option (List (List Char))
  | .added => d.added.map fun s => s.entries.flatMap fun r => r.headLine :: r.bodyLines
  | .modified => d.modified.map fun s => s.entries.flatMap fun r => r.headLine :: r.bodyLines
  | .removed => d.removed.map fun s => s.entries.flatMap fun r => r.headLine :: r.bodyLines
  | .renamed => d.renamed.map fun s => s.entries.flatMap fun r => [r.sourceLine, r.targetLine]

/-- The operations of a delta, each with the lines below its heading. -/
def parts (d : Delta) : List (Operation × List (List Char)) :=
  Operation.all.filterMap fun op => (d.bodyLines? op).map (op, ·)

theorem mem_parts_iff {d : Delta} {op : Operation} {body : List (List Char)} :
    (op, body) ∈ d.parts ↔ d.bodyLines? op = some body := by
  have hall : op ∈ Operation.all := by cases op <;> decide
  simp [parts, List.mem_filterMap, hall]

/-- There is one part at most for an operation, so that looking from the end finds it. -/
theorem find?_reverse_parts (d : Delta) (op : Operation) :
    d.parts.reverse.find? (·.1 = op) = (d.bodyLines? op).map (op, ·) := by
  cases hbody : d.bodyLines? op with
  | none =>
      rw [Option.map_none, List.find?_eq_none]
      rintro ⟨op', body⟩ hp he
      have hop : op' = op := by simpa using he
      have hmem := mem_parts_iff.mp (List.mem_reverse.mp hp)
      rw [hop, hbody] at hmem
      cases hmem
  | some body =>
      have hmem : (op, body) ∈ d.parts.reverse := List.mem_reverse.mpr (mem_parts_iff.mpr hbody)
      have hsome : (d.parts.reverse.find? (·.1 = op)).isSome = true :=
        List.find?_isSome.mpr ⟨_, hmem, by simp⟩
      obtain ⟨⟨op', body'⟩, hp⟩ := Option.isSome_iff_exists.mp hsome
      have hop : op' = op := by simpa using List.find?_some hp
      have hbody' := mem_parts_iff.mp (List.mem_reverse.mp (List.mem_of_find?_eq_some hp))
      rw [hop, hbody] at hbody'
      rw [hp, hop, Option.some.inj hbody']
      rfl

variable {d : Delta}

theorem writtenAs_renderSection (h : d.Writable) (op : Operation) :
    op.WrittenAs (d.renderSection op) (d.bodyLines? op) := by
  have hrequirement {r : Requirement} (hr : r.Writable) :
      WholeLines r.render.toList (r.headLine :: r.bodyLines) ∧
        ∀ l ∈ r.headLine :: r.bodyLines, Section.opening? l = none :=
    ⟨hr.wholeLines_render, hr.opening?_eq_none⟩
  cases op with
  | added => exact Declared.writtenAs _ fun s hs r hr => hrequirement (h.added s hs r hr)
  | modified => exact Declared.writtenAs _ fun s hs r hr => hrequirement (h.modified s hs r hr)
  | removed => exact Declared.writtenAs _ fun s hs r hr => hrequirement (h.removed s hs r hr)
  | renamed =>
      refine Declared.writtenAs _ fun s hs r hr => ?_
      exact ⟨(h.renamed s hs r hr).wholeLines_render, Rename.opening?_eq_none r⟩

theorem wholeLines_render (h : d.Writable) :
    WholeLines d.render.toList (d.parts.flatMap fun p => p.1.headLine :: p.2) := by
  have hsection : ∀ op ∈ Operation.all, WholeLines (d.renderSection op).toList
      (((d.bodyLines? op).map (op.headLine :: ·)).getD []) := by
    intro op _
    have hop := writtenAs_renderSection h op
    cases hbody : d.bodyLines? op with
    | none =>
        rw [hbody] at hop
        rw [show d.renderSection op = "" from hop]
        exact WholeLines.nil
    | some body =>
        rw [hbody] at hop
        exact hop.1
  have hparts : d.parts.flatMap (fun p => p.1.headLine :: p.2) =
      Operation.all.flatMap fun op => ((d.bodyLines? op).map (op.headLine :: ·)).getD [] := by
    rw [parts]
    induction Operation.all with
    | nil => rfl
    | cons op ops ih =>
        rw [List.flatMap_cons, ← ih, List.filterMap_cons]
        cases d.bodyLines? op <;> simp
  rw [hparts]
  exact WholeLines.foldr hsection

/-! ## Reading deltas back -/

theorem map_written_render (h : d.Writable) :
    (Section.written d.render).map (fun s => (s.name, s.lines)) =
      d.parts.map fun p => (p.1.heading, p.2) := by
  have hbody : ∀ p ∈ d.parts, ∀ l ∈ p.2, Section.opening? l = none := by
    rintro ⟨op, body⟩ hp l hl
    have hop := writtenAs_renderSection h op
    rw [mem_parts_iff.mp hp] at hop
    exact hop.2 l hl
  have hlines : lines d.render.toList = [] ++ d.parts.flatMap fun p => p.1.headLine :: p.2 :=
    (wholeLines_render h).lines_eq
  exact Section.map_written hlines (by simp) (fun p _ => p.1.opening?_headLine) hbody

theorem map_lines_sectionOf (h : d.Writable) (op : Operation) :
    (sectionOf op (Section.inText d.render)).map (·.lines) = d.bodyLines? op := by
  have hpart : (fun p : Operation × List (List Char) =>
      decide (Operation.ofHeading? p.1.heading = some op)) = fun p => decide (p.1 = op) := by
    funext p
    simp [Operation.ofHeading?_heading]
  have hlines := congrArg (Option.map Prod.snd) (map_sectionOf (map_written_render h) op)
  rw [hpart, Option.map_map, find?_reverse_parts, Option.map_map, Option.map_map] at hlines
  rw [sectionOf_inText]
  simpa [Function.comp_def] using hlines

theorem readBack_section {α : Type} {entry : α → α → Prop} {rows : α → List (List Char)}
    {read : Section → List α} (h : d.Writable) (op : Operation) {s : Option (Declared α)}
    (hs : d.bodyLines? op = s.map fun t => t.entries.flatMap rows)
    (hread : ∀ t ∈ s, ∀ u : Section, u.lines = t.entries.flatMap rows →
      List.Forall₂ entry t.entries (read u)) :
    Declared.ReadBack entry s
      ((sectionOf op (Section.inText d.render)).map fun u => ⟨u.line, read u⟩) := by
  have hlines := map_lines_sectionOf h op
  rw [hs] at hlines
  cases hsection : sectionOf op (Section.inText d.render) with
  | none =>
      rw [hsection, Option.map_none, eq_comm, Option.map_eq_none_iff] at hlines
      rw [hlines]
      exact .none
  | some u =>
      rw [hsection, Option.map_some, eq_comm, Option.map_eq_some_iff] at hlines
      obtain ⟨t, rfl, hu⟩ := hlines
      exact .some (hread t rfl u hu.symm)

theorem readBack_requirementsOf (h : d.Writable) (op : Operation)
    {s : Option (Declared Requirement)}
    (hs : d.bodyLines? op = s.map fun t => t.entries.flatMap fun r => r.headLine :: r.bodyLines)
    (hw : ∀ t ∈ s, ∀ r ∈ t.entries, r.Writable) :
    Declared.ReadBack Requirement.ReadBack s (requirementsOf op (Section.inText d.render)) := by
  refine readBack_section h op hs fun t ht u hu => ?_
  have hentries := Requirement.forall₂_readBack (hw t ht) (u.line + 1)
  rw [← hu] at hentries
  exact hentries

/-- A delta is read back from the text that it is written as: each section is there or absent as
before, and has the same entries in the same order. -/
theorem readBack_ofText_render (h : d.Writable) : d.ReadBack (ofText d.render) := by
  refine ⟨?_, ?_, ?_, ?_⟩
  · rw [added_ofText]
    exact readBack_requirementsOf h .added rfl h.added
  · rw [modified_ofText]
    exact readBack_requirementsOf h .modified rfl h.modified
  · rw [removed_ofText]
    exact readBack_requirementsOf h .removed rfl h.removed
  · rw [renamed_ofText]
    refine readBack_section h .renamed rfl fun t ht u hu => ?_
    have hentries := Rename.forall₂_readBack (h.renamed t ht) (u.line + 1)
    rw [← hu] at hentries
    exact hentries

/-- A delta with an empty section and an absent one, and with names that hold marks. -/
theorem readBack_ofText_render_of_marks :
    let d : Delta := {
      added := some ⟨1, [
        ⟨"FROM: `a`", 2, "It MUST.\n\n#### Scenario: b\n- c\n**Scenario: d**", []⟩,
        ⟨"## e", 9, "", []⟩]⟩
      modified := none
      removed := some ⟨12, []⟩
      renamed := some ⟨13, [⟨"`", "### Requirement: f", 14⟩, ⟨"### Requirement:", "`g`", 16⟩]⟩ }
    d.Writable ∧ d.ReadBack (ofText d.render) := by
  intro d
  have h : d.Writable := by decide +kernel
  exact ⟨h, readBack_ofText_render h⟩

end Delta

end SpecReview
