import SpecReview.Text.Lowercase.Context
import SpecReview.Text.Lowercase.Table

/-! Full lower-casing of a word: single mappings, the one mapping to two characters, and the
two forms of the small sigma. -/

namespace SpecReview.Text

/-- The image of a code point in runs that stand in ascending order. -/
def lowerCode (n : Nat) : List CaseRun → Nat
  | [] => n
  | r :: rs =>
    if n < r.first then n
    else if n ≤ r.last then
      if (n - r.first) % r.step = 0 then r.image + (n - r.first) else n
    else lowerCode n rs

/-- The lower-case form of a character by itself. Only the dotted capital I has one of two
characters. -/
def lowerChar (c : Char) : List Char :=
  if c = 'İ' then ['i', '\u0307'] else [Char.ofNat (lowerCode c.toNat caseRuns)]

/-- Whether the first character that is not case-ignorable is cased. -/
def meetsCased : List Char → Bool
  | [] => false
  | c :: cs =>
    if inRanges c.toNat caseIgnorableRanges then meetsCased cs
    else inRanges c.toNat casedRanges

/-- The lower-case form of what follows `before`, which is reversed. A capital sigma ends a
word, and so takes its final form, after a cased character with none to follow. -/
def lowercaseFrom : List Char → List Char → List Char
  | _, [] => []
  | before, c :: cs =>
    (if c = 'Σ' then [if meetsCased before && !meetsCased cs then 'ς' else 'σ'] else lowerChar c)
      ++ lowercaseFrom (c :: before) cs

/-- The lower-case form of a word. -/
def lowercase (cs : List Char) : List Char :=
  lowercaseFrom [] cs

end SpecReview.Text
