import SpecReview.Text.Blank
import SpecReview.Text.Lowercase

/-! The canonical form of a requirement name, under which names are compared. -/

namespace SpecReview.Name

open Text

/-- Words with a space between each two. -/
def joinWords : List (List Char) → List Char
  | [] => []
  | [w] => w
  | w :: v :: ws => w ++ ' ' :: joinWords (v :: ws)

/-- The canonical form of a name: its words in lower case, a single space between each two. Two
names with one canonical form name the same requirement. -/
def canonical (name : String) : String :=
  String.ofList (joinWords ((words name.toList).map lowercase))

end SpecReview.Name
