import SpecReview.Text.Blank

/-! The four kinds of change that a delta declares. -/

namespace SpecReview

inductive Operation where
  | added
  | modified
  | removed
  | renamed
  deriving DecidableEq

namespace Operation

/-- Every operation, in the order in which their sections are reviewed. -/
def all : List Operation :=
  [.added, .modified, .removed, .renamed]

/-- The keyword of an operation in section headings. -/
def keyword : Operation → String
  | .added => "ADDED"
  | .modified => "MODIFIED"
  | .removed => "REMOVED"
  | .renamed => "RENAMED"

/-- Equality of texts up to the case of ASCII letters. -/
def sameLetters (xs ys : List Char) : Bool :=
  xs.map Char.toLower == ys.map Char.toLower

/-- The operation of a section heading: its keyword and the word for requirements, in any case
and with any blanks around them. -/
def ofHeading? (heading : String) : Option Operation :=
  match Text.words heading.toList with
  | [word, noun] =>
    if sameLetters noun "requirements".toList then
      all.find? (sameLetters word ·.keyword.toList)
    else none
  | _ => none

end Operation

end SpecReview
