import SpecReview.Operation
import SpecReview.Rename
import SpecReview.Section

/-! Deltas: the changes to requirements that a text declares under the headings of the four
operations. -/

namespace SpecReview

/-- What a delta declares under the heading of one operation. -/
structure Declared (α : Type) where
  line : Nat
  entries : List α
  deriving DecidableEq

/-- A delta. An operation without a heading is absent; one with a heading and nothing below it
declares no entry. Of the requirements to remove only the names matter. -/
structure Delta where
  added : Option (Declared Requirement)
  modified : Option (Declared Requirement)
  removed : Option (Declared Requirement)
  renamed : Option (Declared Rename)
  deriving DecidableEq

namespace Delta

/-- The last section whose heading is that of an operation. -/
def sectionOf (op : Operation) (ss : List Section) : Option Section :=
  ss.reverse.find? (Operation.ofHeading? ·.name = some op)

/-- The requirements declared for an operation. -/
def requirementsOf (op : Operation) (ss : List Section) : Option (Declared Requirement) :=
  (sectionOf op ss).map fun s => ⟨s.line, s.requirements⟩

/-- The delta of a text. -/
def ofText (text : String) : Delta :=
  let ss := Section.inText text
  { added := requirementsOf .added ss
    modified := requirementsOf .modified ss
    removed := requirementsOf .removed ss
    renamed := (sectionOf .renamed ss).map fun s => ⟨s.line, Rename.inLines s.numbered⟩ }

theorem added_ofText (text : String) :
    (ofText text).added = requirementsOf .added (Section.inText text) := rfl

theorem modified_ofText (text : String) :
    (ofText text).modified = requirementsOf .modified (Section.inText text) := rfl

theorem removed_ofText (text : String) :
    (ofText text).removed = requirementsOf .removed (Section.inText text) := rfl

theorem renamed_ofText (text : String) : (ofText text).renamed =
    (sectionOf .renamed (Section.inText text)).map fun s => ⟨s.line, Rename.inLines s.numbered⟩ :=
  rfl

/-- How many operations have a heading. -/
def sectionCount (d : Delta) : Nat :=
  [d.added.isSome, d.modified.isSome, d.removed.isSome, d.renamed.isSome].count true

/-- The requirements to add, modify or remove. -/
def requirements (d : Delta) : Operation → List Requirement
  | .added => (d.added.map (·.entries)).getD []
  | .modified => (d.modified.map (·.entries)).getD []
  | .removed => (d.removed.map (·.entries)).getD []
  | .renamed => []

def renames (d : Delta) : List Rename :=
  (d.renamed.map (·.entries)).getD []

/-- The renames that have both names. -/
def completeRenames (d : Delta) : List Rename :=
  d.renames.filter (·.isComplete)

end Delta

end SpecReview
