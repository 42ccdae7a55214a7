import SpecReview.Proofs.Block
import SpecReview.Proofs.Line.Kind
import SpecReview.Section

/-! # Where sections and requirements stand

Sections are cut from the lines of a text and requirements from the lines of a section. Both keep
the numbers that the lines have in the text, and a requirement of a section has the lines that it
has in the text. -/

namespace SpecReview

open Text

/-- A line of a text with its number, counted from one. -/
def Text.LineAt (text : String) (n : Nat) (l : List Char) : Prop :=
  (n, l) ∈ numberFrom 1 (lines text.toList)

theorem Text.lineAt_iff {text : String} {n : Nat} {l : List Char} :
    LineAt text n l ↔
      1 ≤ n ∧ n ≤ (lines text.toList).length ∧ (lines text.toList)[n - 1]? = some l := by
  rw [LineAt, mem_numberFrom_iff]
  refine and_congr_right fun hn => (and_iff_right_of_imp fun hl => ?_).symm
  obtain ⟨hlt, -⟩ := List.getElem?_eq_some_iff.mp hl
  omega

theorem Text.newline_notMem_of_lineAt {text : String} {n : Nat} {l : List Char}
    (h : LineAt text n l) : '\n' ∉ l :=
  newline_notMem_of_mem_lines (List.mem_of_getElem? (mem_numberFrom_iff.mp h).2)

/-! ## Sections -/

namespace Section

variable {text : String} {s : Section}

theorem exists_append_of_mem_latest {ss : List Section} (h : s ∈ latest ss) :
    ∃ before after, ss = before ++ s :: after ∧ ∀ t ∈ after, t.name ≠ s.name := by
  fun_induction latest ss with
  | case1 => simp at h
  | case2 t ss ht ih =>
      obtain ⟨before, after, rfl, hafter⟩ := ih h
      exact ⟨t :: before, after, rfl, hafter⟩
  | case3 t ss ht ih =>
      rcases List.mem_cons.mp h with rfl | h
      · exact ⟨[], ss, rfl, by simpa using ht⟩
      · obtain ⟨before, after, rfl, hafter⟩ := ih h
        exact ⟨t :: before, after, rfl, hafter⟩

theorem exists_block_of_mem_inText (h : s ∈ inText text) :
    ∃ b ∈ (Block.cut opening? (fun _ => false) 1 (Text.lines text.toList)).2, ofBlock b = s := by
  obtain ⟨before, after, heq, -⟩ := exists_append_of_mem_latest h
  apply List.mem_map.mp
  rw [← Block.all, heq]
  simp

theorem numbered_subset (h : s ∈ inText text) :
    s.numbered ⊆ numberFrom 1 (Text.lines text.toList) := by
  obtain ⟨b, hb, rfl⟩ := exists_block_of_mem_inText h
  exact Block.numbered_subset hb

theorem kind_of_opening? {l : List Char} {name : String} (h : opening? l = some name) :
    Line.kind l = .sectionHead name := by
  rwa [opening?_eq, ← Line.kind_eq_sectionHead_iff] at h

theorem exists_heading (h : s ∈ inText text) :
    ∃ l, LineAt text s.line l ∧ Line.kind l = .sectionHead s.name := by
  obtain ⟨b, hb, rfl⟩ := exists_block_of_mem_inText h
  obtain ⟨l, hl, hopen⟩ := Block.exists_heading hb
  exact ⟨l, hl, kind_of_opening? hopen⟩

/-- Of the headings with its name, that of a section is the last. -/
theorem le_line_of_heading (h : s ∈ inText text) {n : Nat} {l : List Char} (hl : LineAt text n l)
    (hkind : Line.kind l = .sectionHead s.name) : n ≤ s.line := by
  obtain ⟨before, after, hsections, hafter⟩ := exists_append_of_mem_latest h
  have hheadings : (before ++ s :: after).map (fun t => (t.line, t.name)) =
      (numberFrom 1 (Text.lines text.toList)).filterMap fun x => (opening? x.2).map (x.1, ·) := by
    rw [← hsections, List.map_map, ← Block.map_line_head_cut opening? (fun _ => false)]
    rfl
  have hascending : (before ++ s :: after).Pairwise fun t u => t.line < u.line := by
    rw [← hsections]
    exact List.pairwise_map.mpr (Block.pairwise_line opening? (fun _ => false) 1 _)
  have hopen : opening? l = some s.name := by
    rw [opening?_eq, ← Line.kind_eq_sectionHead_iff, hkind]
  have hmem : (n, s.name) ∈ (before ++ s :: after).map fun t => (t.line, t.name) := by
    rw [hheadings]
    exact List.mem_filterMap.mpr ⟨(n, l), hl, by simp [hopen]⟩
  obtain ⟨t, ht, heq⟩ := List.mem_map.mp hmem
  obtain ⟨rfl, hname⟩ := Prod.mk.inj heq
  rcases List.mem_append.mp ht with ht | ht
  · exact Nat.le_of_lt ((List.pairwise_append.mp hascending).2.2 t ht s (by simp))
  · rcases List.mem_cons.mp ht with rfl | ht
    · exact Nat.le_refl t.line
    · exact absurd hname (hafter t ht)

end Section

/-! ## Requirements -/

namespace Requirement

/-- The lines after the heading of a requirement, up to the one that closes it. -/
def blockLines (text : String) (r : Requirement) : List (List Char) :=
  ((lines text.toList).drop r.line).takeWhile (Block.continues opening? closes)

variable {text : String} {r : Requirement}

theorem exists_block_of_mem_inText (h : r ∈ inText text) :
    ∃ b ∈ Block.all opening? closes 1 (lines text.toList),
      r = ofBlock b ∧ b.body = r.blockLines text := by
  obtain ⟨b, hb, rfl⟩ := List.mem_map.mp h
  exact ⟨b, hb, rfl, (Block.body_eq_takeWhile hb).2⟩

theorem of_mem_blockLines (h : r ∈ inText text) {l : List Char} (hl : l ∈ r.blockLines text) :
    l ∈ lines text.toList ∧ opening? l = none ∧ closes l = false := by
  obtain ⟨b, hb, -, hbody⟩ := exists_block_of_mem_inText h
  have hunbroken : opening? l = none ∧ closes l = false := Block.of_mem_body hb (hbody ▸ hl)
  exact ⟨List.mem_of_mem_drop ((List.takeWhile_prefix _).subset hl), hunbroken⟩

theorem newline_notMem_of_mem_blockLines (h : r ∈ inText text) :
    ∀ l ∈ r.blockLines text, '\n' ∉ l :=
  fun _ hl => newline_notMem_of_mem_lines (of_mem_blockLines h hl).1

theorem content_eq (h : r ∈ inText text) :
    r.content.toList = trim (joinLines (r.blockLines text)) := by
  obtain ⟨b, -, rfl, hbody⟩ := exists_block_of_mem_inText h
  rw [ofBlock, String.toList_ofList, hbody]
  rfl

/-- A requirement where it stands in a text: its heading on its line, and its markers in the lines
of its block. -/
structure StandsIn (text : String) (r : Requirement) : Prop where
  heading : ∃ l, LineAt text r.line l ∧ Line.kind l = .requirementHead r.name
  markers : ∀ m ∈ r.markers, ∃ l, LineAt text m.line l ∧
    (m.line, l) ∈ numberFrom (r.line + 1) (r.blockLines text) ∧
      Line.kind l = .malformedScenario ∧ m.text = String.ofList (trim l)

end Requirement

theorem takeWhile_drop_takeWhile {α : Type} {p q : α → Bool} (h : ∀ a, q a = true → p a = true)
    {k : Nat} {as : List α} (hk : k ≤ (as.takeWhile p).length) :
    ((as.takeWhile p).drop k).takeWhile q = (as.drop k).takeWhile q := by
  induction k generalizing as with
  | zero =>
      rw [List.drop_zero, List.drop_zero, List.takeWhile_takeWhile]
      congr
      funext a
      cases hq : q a <;> simp [hq, h a]
  | succ k ih =>
      cases as with
      | nil => simp
      | cons a as =>
          cases hp : p a with
          | true =>
              rw [List.takeWhile_cons_of_pos hp] at hk ⊢
              exact ih (Nat.le_of_succ_le_succ hk)
          | false => simp [hp] at hk

/-- A requirement of a section has the lines that it has in the text. -/
theorem Section.body_eq_blockLines {text : String} {s : Section} (h : s ∈ inText text)
    {b : Block String}
    (hb : b ∈ (Block.cut Requirement.opening? Requirement.closes (s.line + 1) s.lines).2) :
    b.body = (Requirement.ofBlock b).blockLines text := by
  obtain ⟨c, hc, rfl⟩ := exists_block_of_mem_inText h
  have hlines : (ofBlock c).lines =
      ((Text.lines text.toList).drop c.line).takeWhile (Block.continues opening? fun _ => false) :=
    (Block.body_eq_takeWhile hc).2
  have hcontinues (l : List Char)
      (hl : Block.continues Requirement.opening? Requirement.closes l = true) :
      Block.continues opening? (fun _ => false) l = true := by
    simp only [Block.continues, Bool.and_eq_true, Bool.not_eq_true'] at hl
    simp [Block.continues, opening?_of_closes hl.2]
  obtain ⟨hline, hbody⟩ := Block.body_eq_takeWhile hb
  obtain ⟨l, hl, -⟩ := Block.exists_heading hb
  obtain ⟨hinside, -⟩ := List.getElem?_eq_some_iff.mp (mem_numberFrom_iff.mp hl).2
  have hindex : c.line + (b.line + 1 - (c.line + 1)) = b.line := by
    have hstart : c.line + 1 ≤ b.line := hline
    omega
  have hlength : b.line + 1 - (c.line + 1) ≤ (ofBlock c).lines.length := by
    have hlt : b.line - (c.line + 1) < (ofBlock c).lines.length := hinside
    omega
  have hdrop : (ofBlock c).line = c.line := rfl
  rw [hlines] at hlength
  rw [hbody, hdrop, hlines, takeWhile_drop_takeWhile hcontinues hlength, List.drop_drop, hindex]
  rfl

theorem Section.standsIn_of_mem_requirements {text : String} {s : Section} (h : s ∈ inText text)
    {r : Requirement} (hr : r ∈ s.requirements) : r.StandsIn text := by
  obtain ⟨b, hb, rfl⟩ := List.mem_map.mp hr
  have hsubset := numbered_subset h
  constructor
  · obtain ⟨l, hl, hopen⟩ := Block.exists_heading hb
    refine ⟨l, hsubset hl, ?_⟩
    rwa [Requirement.opening?_eq, ← Line.kind_eq_requirementHead_iff] at hopen
  · intro m hm
    obtain ⟨⟨n, l⟩, hl, rfl⟩ := List.mem_map.mp hm
    obtain ⟨hnumbered, hkind⟩ := List.mem_filter.mp hl
    refine ⟨l, hsubset (Block.numbered_subset hb hnumbered), ?_, of_decide_eq_true hkind, rfl⟩
    rw [← body_eq_blockLines h hb]
    exact hnumbered

end SpecReview
