import SpecReview.Path

/-! The ledger of a change: which of its files was the first to declare a name. A holder once
entered stays. -/

namespace SpecReview

/-- What a delta may do with a name. A name may be declared once in each role. -/
inductive Role where
  | added
  | modified
  | removed
  | renameSource
  | renameTarget
  deriving DecidableEq

/-- A canonical name in a role. -/
structure Claim where
  role : Role
  name : String
  deriving DecidableEq

/-- The claims of a change so far, each with the first file that makes it. -/
structure Ledger where
  entries : List (Claim × Path)
  deriving DecidableEq

namespace Ledger

def empty : Ledger :=
  ⟨[]⟩

/-- The file that was the first to make a claim. -/
def holder? (l : Ledger) (c : Claim) : Option Path :=
  (l.entries.find? (·.1 = c)).map (·.2)

/-- Enters a claim of a file unless the claim has been made before. -/
def record (l : Ledger) (file : Path) (c : Claim) : Ledger :=
  match l.holder? c with
  | some _ => l
  | none => ⟨l.entries ++ [(c, file)]⟩

/-- Enters the claims of a file in order. -/
def recordAll (l : Ledger) (file : Path) (cs : List Claim) : Ledger :=
  cs.foldl (·.record file ·) l

/-- The first holder of a claim, if that is another file than the given one. -/
def otherHolder? (l : Ledger) (file : Path) (c : Claim) : Option Path :=
  (l.holder? c).filter (!·.same file)

theorem holder?_empty (c : Claim) : empty.holder? c = none := rfl

/-- The file becomes the holder of a claim that had none, and no other holder changes. -/
theorem holder?_record (l : Ledger) (file : Path) (c d : Claim) :
    (l.record file c).holder? d =
      if d = c then some ((l.holder? c).getD file) else l.holder? d := by
  unfold record
  split
  · rename_i p hp
    by_cases h : d = c
    · simp [h, hp]
    · simp [h]
  · rename_i hp
    by_cases h : d = c
    · subst h
      have hn : l.entries.find? (·.1 = d) = none := by simpa [holder?] using hp
      simp [holder?, List.find?_append, hn]
    · have h' : c ≠ d := Ne.symm h
      simp [holder?, List.find?_append, h, h']

/-- Of the claims without a holder, those that a file makes get the file as theirs. -/
theorem holder?_recordAll (l : Ledger) (file : Path) (cs : List Claim) (d : Claim) :
    (l.recordAll file cs).holder? d = (l.holder? d).or (if d ∈ cs then some file else none) := by
  induction cs generalizing l with
  | nil => simp [recordAll]
  | cons c cs ih =>
      have hstep : (l.recordAll file (c :: cs)).holder? d =
          ((l.record file c).recordAll file cs).holder? d := rfl
      rw [hstep, ih, holder?_record]
      by_cases hc : d = c
      · cases h : l.holder? d <;> simp [← hc, h]
      · simp [hc]

/-- A claim that has a holder keeps it. -/
theorem holder?_recordAll_of_some {l : Ledger} {p : Path} {d : Claim} (h : l.holder? d = some p)
    (file : Path) (cs : List Claim) : (l.recordAll file cs).holder? d = some p := by
  rw [holder?_recordAll, h, Option.some_or]

end Ledger

end SpecReview
