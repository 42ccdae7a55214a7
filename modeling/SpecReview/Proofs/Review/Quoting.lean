import SpecReview.Proofs.Merge.Obstacle
import SpecReview.Proofs.Requirement.Names
import SpecReview.Proofs.Review.Collision
import SpecReview.Proofs.Review.Position

/-! # What messages quote

Names, markers and the sides of renames are cut from lines, and so they hold no newline. A message
is put together from them, from paths and from fixed words, and where the paths hold no newline it
stands on one line. -/

namespace SpecReview

open Text

/-! ## Texts on one line -/

/-- Whether a text holds no newline. -/
def Text.OneLine (s : String) : Prop :=
  '\n' ∉ s.toList

instance : DecidablePred OneLine :=
  fun _ => inferInstanceAs (Decidable (¬ _))

namespace Text

theorem OneLine.append {s t : String} (hs : OneLine s) (ht : OneLine t) : OneLine (s ++ t) := by
  rw [OneLine, String.toList_append, List.mem_append, not_or]
  exact ⟨hs, ht⟩

theorem oneLine_ofList_of_subset {cs l : List Char} (h : cs ⊆ l) (hl : '\n' ∉ l) :
    OneLine (String.ofList cs) := by
  rw [OneLine, String.toList_ofList]
  exact fun hmem => hl (h hmem)

theorem oneLine_toString (n : Nat) : OneLine (toString n) := by
  rw [OneLine, Nat.toString_eq_repr, Nat.toList_repr]
  intro hmem
  have hdigit := Nat.isDigit_of_mem_toDigits (by decide) (by decide) hmem
  revert hdigit
  decide

/-- A quotation between two fixed texts. -/
theorem OneLine.within {before quoted after : String} (h : OneLine quoted)
    (hbefore : OneLine before) (hafter : OneLine after) : OneLine (before ++ quoted ++ after) :=
  (hbefore.append h).append hafter

/-- Two quotations among three fixed texts. -/
theorem OneLine.among {before first between second after : String} (hfirst : OneLine first)
    (hsecond : OneLine second) (hbefore : OneLine before) (hbetween : OneLine between)
    (hafter : OneLine after) : OneLine (before ++ first ++ between ++ second ++ after) :=
  ((hfirst.within hbefore hbetween).append hsecond).append hafter

end Text

/-! ## Names and markers -/

/-- What messages quote of a requirement holds no newline. -/
structure Requirement.Quotable (r : Requirement) : Prop where
  name : OneLine r.name
  markers : ∀ m ∈ r.markers, OneLine m.text

structure Rename.Quotable (r : Rename) : Prop where
  source : OneLine r.source
  target : OneLine r.target

structure Delta.Quotable (d : Delta) : Prop where
  requirements : ∀ op, ∀ r ∈ d.requirements op, r.Quotable
  renames : ∀ r ∈ d.renames, r.Quotable

theorem Requirement.StandsIn.quotable {text : String} {r : Requirement} (h : r.StandsIn text) :
    r.Quotable := by
  constructor
  · obtain ⟨l, hl, hkind⟩ := h.heading
    have hopen : opening? l = some r.name := by
      rw [opening?_eq, ← Line.kind_eq_requirementHead_iff, hkind]
    exact (writable_of_opening? hopen (newline_notMem_of_lineAt hl)).no_newline
  · intro m hm
    obtain ⟨l, hl, -, -, htext⟩ := h.markers m hm
    rw [htext]
    exact oneLine_ofList_of_subset (trim_subset l) (newline_notMem_of_lineAt hl)

namespace Rename

theorem skipMark_subset (mark : Char) (cs : List Char) : skipMark mark cs ⊆ cs := by
  have hstart := trimStart_subset cs
  unfold skipMark
  split
  · rename_i c rest hcs
    rw [hcs] at hstart
    split
    · exact fun _ h => hstart (List.mem_cons_of_mem c h)
    · exact hstart
  · exact List.nil_subset cs

theorem skipHeading_subset (cs : List Char) : skipHeading cs ⊆ cs := by
  unfold skipHeading
  cases h : Line.marked? 3 "Requirement:" cs with
  | none => exact List.Subset.refl cs
  | some rest =>
      obtain ⟨c, gap, -, -, rfl, -⟩ := Line.marked?_eq_some_iff.mp h
      intro d hd
      have hd : d ∈ rest := hd
      simp [hd]

theorem oneLine_sideName {cs : List Char} (h : '\n' ∉ cs) : OneLine (sideName cs) := by
  refine oneLine_ofList_of_subset (fun c hc => ?_) h
  have hreverse := List.mem_reverse.mp ((isPrefix_trimEnd _).subset hc)
  have hrest := trimStart_subset _ (List.mem_reverse.mp (skipMark_subset _ _ hreverse))
  exact skipMark_subset _ _ (trimStart_subset _ (skipHeading_subset _ hrest))

theorem oneLine_of_side? {mark name : String} {l : List Char} (h : side? mark l = some name)
    (hl : '\n' ∉ l) : OneLine name := by
  simp only [side?, bind, pure, Option.bind_eq_some_iff, Option.some.injEq] at h
  obtain ⟨rest, hbullet, more, hmark, rfl⟩ := h
  apply oneLine_sideName
  intro hmem
  have hmore : '\n' ∈ trimStart rest := by
    rw [Line.after?_eq_some_iff.mp hmark]
    exact List.mem_append_right _ hmem
  have hrest : '\n' ∈ trimStart l := by
    rw [Line.after?_eq_some_iff.mp hbullet]
    exact List.mem_append_right _ (trimStart_subset rest hmore)
  exact hl (trimStart_subset l hrest)

theorem quotable_of_mem_inLines {ls : List (Nat × List Char)} (h : ∀ x ∈ ls, '\n' ∉ x.2)
    {r : Rename} (hr : r ∈ inLines ls) : r.Quotable := by
  obtain ⟨hsource, htarget⟩ := names_of_mem_inLines (P := OneLine) List.not_mem_nil
    (fun x hx _ _ hside => oneLine_of_side? hside (h x hx)) hr
  exact ⟨hsource, htarget⟩

end Rename

/-- What is read from a text can be quoted, whatever the text. -/
theorem Delta.quotable_ofText (text : String) : (ofText text).Quotable := by
  constructor
  · intro op r hr
    obtain ⟨s, hs, hr⟩ := exists_section_of_mem_requirements hr
    exact (Section.standsIn_of_mem_requirements hs hr).quotable
  · intro r hr
    obtain ⟨s, hs, -, hr⟩ := exists_section_of_mem_renames hr
    refine Rename.quotable_of_mem_inLines (fun x hx => ?_) hr
    exact newline_notMem_of_lineAt (Section.numbered_subset hs hx)

/-! ## Messages

A message unfolds to a chain of appended texts, and each proof follows the chain from its end. -/

theorem Operation.oneLine_keyword (op : Operation) : OneLine op.keyword := by
  cases op <;> decide

theorem Side.oneLine_label (side : Side) : OneLine side.label := by
  cases side <;> decide

theorem Rename.Quotable.side {r : Rename} (h : r.Quotable) (side : Side) :
    OneLine (side.name r) := by
  cases side with
  | source => exact h.source
  | target => exact h.target

theorem Fault.oneLine_markerMessage {m : Marker} (h : OneLine m.text) :
    OneLine (markerMessage m) :=
  h.within (by decide +kernel) (by decide)

theorem Conflict.oneLine_message {name : String} (h : OneLine name) (c : Conflict) :
    OneLine (c.message name) := by
  cases c with
  | addedModified => exact h.within (by decide) (by decide +kernel)
  | modifiedRemoved => exact h.within (by decide) (by decide +kernel)
  | addedRemoved => exact h.within (by decide) (by decide +kernel)
  | modifiedRenamed => exact h.within (by decide) (by decide +kernel)
  | addedRenamed => exact h.within (by decide) (by decide +kernel)

namespace DeltaFinding

variable {d : Delta} {f : DeltaFinding} {file : Path}

theorem oneLine_of_entry? (hd : d.Quotable) (hf : f.From d) {op : Operation} {name : String}
    (h : f.entry? = some (op, name)) : OneLine name := by
  cases f with
  | emptySection => cases h
  | fault op r f =>
      cases h
      exact (hd.requirements op r hf.1).name
  | collision op r c =>
      cases h
      exact (hd.requirements op r hf).name
  | incomplete r => cases h
  | renameCollision side r c =>
      cases h
      exact (hd.renames r hf).source
  | conflict c r =>
      cases h
      exact (hd.requirements c.reporter r hf).name

theorem oneLine_expected (op : Operation) : OneLine (expected op) := by
  cases op <;> decide +kernel

/-- A message quotes its delta, and the other file of a collision beside its own. -/
theorem oneLine_message (hd : d.Quotable) (hf : f.From d) (hfile : OneLine file.text)
    (hother : ∀ role name other, f.collisionIn? role = some (name, .alsoIn other) →
      OneLine other.text) : OneLine (f.message file) := by
  cases f with
  | emptySection op line =>
      exact ((op.oneLine_keyword.append (by decide +kernel)).append (oneLine_expected op)).append
        (by decide)
  | fault op r f =>
      have hr := hd.requirements op r hf.1
      cases f with
      | noKeyword =>
          exact ((op.oneLine_keyword.append (by decide)).append hr.name).append (by decide +kernel)
      | noScenario =>
          exact ((op.oneLine_keyword.append (by decide)).append hr.name).append (by decide +kernel)
      | malformedScenario m =>
          exact Fault.oneLine_markerMessage (hr.markers m (Fault.mem_markers_of_mem_faults hf.2))
  | collision op r c =>
      have hr := hd.requirements op r hf
      cases c with
      | repeated =>
          exact hr.name.among op.oneLine_keyword (by decide) (by decide) (by decide)
      | alsoIn other =>
          have hother : OneLine other.text := hother op.role r.key other (by simp [collisionIn?])
          exact (((hr.name.among op.oneLine_keyword (by decide) (by decide)
            (by decide +kernel)).append hother).append (by decide)).append hfile
  | incomplete r =>
      have hr := hd.renames r hf
      exact hr.source.among hr.target (by decide +kernel) (by decide) (by decide +kernel)
  | renameCollision side r c =>
      have hname := (hd.renames r hf).side side
      cases c with
      | repeated =>
          exact side.oneLine_label.among hname (by decide) (by decide) (by decide)
      | alsoIn other =>
          have hother : OneLine other.text :=
            hother side.role (side.key r) other (by simp [collisionIn?])
          exact (((hname.among side.oneLine_label (by decide) (by decide)
            (by decide +kernel)).append hother).append (by decide)).append hfile
  | conflict c r => exact c.oneLine_message (hd.requirements c.reporter r hf).name

end DeltaFinding

namespace BaseFinding

/-- What a finding quotes holds no newline. -/
def Quotable : BaseFinding → Prop
  | .fault r f => r.Quotable ∧ f ∈ r.faults
  | .tooLong r _ => r.Quotable
  | _ => True

theorem oneLine_message {f : BaseFinding} (h : f.Quotable) : OneLine f.message := by
  cases f with
  | noPurpose => decide +kernel
  | noRequirements => decide +kernel
  | briefPurpose limit line =>
      exact (oneLine_toString limit).within (by decide +kernel) (by decide)
  | fault r f =>
      cases f with
      | noKeyword => exact h.1.name.within (by decide) (by decide +kernel)
      | noScenario => exact h.1.name.within (by decide) (by decide +kernel)
      | malformedScenario m =>
          exact Fault.oneLine_markerMessage (h.1.markers m (Fault.mem_markers_of_mem_faults h.2))
  | tooLong r limit => exact (oneLine_toString limit).within (by decide +kernel) (by decide)

end BaseFinding

/-- What an obstacle can quote of an entry holds no newline. -/
def Delta.Entry.Quotable : Entry → Prop
  | .modify r => r.Quotable
  | .remove r => r.Quotable
  | .rename r => r.Quotable
  | .add r => r.Quotable

theorem Delta.Quotable.of_mem_entries {d : Delta} (hd : d.Quotable) {e : Entry}
    (he : e ∈ d.entries) : e.Quotable := by
  simp only [entries, List.mem_append, List.mem_map] at he
  rcases he with ((⟨r, hr, rfl⟩ | ⟨r, hr, rfl⟩) | ⟨r, hr, rfl⟩) | ⟨r, hr, rfl⟩
  · exact hd.requirements .modified r hr
  · exact hd.requirements .removed r hr
  · exact hd.renames r (List.mem_of_mem_filter hr)
  · exact hd.requirements .added r hr

theorem Obstacle.oneLine_message {d : Delta} (hd : d.Quotable) {base : Option String}
    {o : Obstacle} (h : d.obstacle? base = some o) : OneLine o.message := by
  cases base with
  | none =>
      have hop (op : Operation) : OneLine (noBase op).message :=
        op.oneLine_keyword.within (by decide +kernel) (by decide)
      rcases Delta.obstacleWithoutBase?_eq_some_iff.mp h with
        ⟨-, rfl⟩ | ⟨-, -, rfl⟩ | ⟨-, -, -, rfl⟩ <;> exact hop _
  | some base =>
      obtain ⟨before, e, after, hentries, -, hv⟩ := Delta.obstacleAmong?_eq_some_iff.mp h
      have he : e.Quotable := hd.of_mem_entries (by simp [hentries])
      cases hv with
      | modified _ => exact he.name.within (by decide +kernel) (by decide +kernel)
      | removed _ => exact he.name.within (by decide +kernel) (by decide +kernel)
      | source _ => exact he.source.within (by decide +kernel) (by decide +kernel)
      | target _ _ _ =>
          exact he.target.among he.source (by decide) (by decide) (by decide +kernel)
      | added _ => exact he.name.within (by decide) (by decide +kernel)

end SpecReview
