import SpecReview.Requirement

/-! The sections of a text. A section is a heading of level two with the lines after it, up to
the next section heading. Of sections with one name the last counts. -/

namespace SpecReview

open Text

/-- A section with the number of its heading line and the lines below the heading. -/
structure Section where
  name : String
  line : Nat
  lines : List (List Char)
  deriving DecidableEq

namespace Section

def opening? (l : List Char) : Option String :=
  match Line.kind l with
  | .sectionHead name => some name
  | _ => none

def ofBlock (b : Block String) : Section where
  name := b.head
  line := b.line
  lines := b.body

/-- The text of a section below its heading. -/
def body (s : Section) : String :=
  String.ofList (trim (joinLines s.lines))

/-- The requirements of a section, with the line numbers of the whole text. -/
def requirements (s : Section) : List Requirement :=
  Requirement.inLines (s.line + 1) s.lines

/-- The lines below the heading with their numbers in the whole text. -/
def numbered (s : Section) : List (Nat × List Char) :=
  numberFrom (s.line + 1) s.lines

/-- Sections without those of which a later one has the name. -/
def latest : List Section → List Section
  | [] => []
  | s :: ss => if ss.any (·.name = s.name) then latest ss else s :: latest ss

/-- The sections of a text in the order of their headings, the last of each name. -/
def inText (text : String) : List Section :=
  latest ((Block.all opening? (fun _ => false) 1 (Text.lines text.toList)).map ofBlock)

/-- The section of a name. -/
def find? (name : String) (ss : List Section) : Option Section :=
  ss.find? (·.name = name)

end Section

end SpecReview
