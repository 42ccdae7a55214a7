import SpecReview.Text.WordChar.Table

/-! Word characters, and the search of a text for keywords that stand as whole words. -/

namespace SpecReview.Text

def isWordChar (c : Char) : Bool :=
  inRanges c.toNat wordRanges

/-- The letters and digits of ASCII are word characters. -/
theorem isWordChar_of_isAlphanum {c : Char} (h : c.isAlphanum = true) : isWordChar c = true := by
  rw [isWordChar, inRanges_iff wordRanges_ascending]
  rcases Bool.or_eq_true_iff.mp h with h | h
  · rcases Bool.or_eq_true_iff.mp h with h | h
    · exact ⟨⟨0x41, 0x5A⟩, by decide +kernel, of_decide_eq_true h⟩
    · have h := Bool.and_eq_true_iff.mp h
      exact ⟨⟨0x61, 0x7A⟩, by decide +kernel, of_decide_eq_true h.1, of_decide_eq_true h.2⟩
  · have h := Bool.and_eq_true_iff.mp h
    exact ⟨⟨0x30, 0x39⟩, by decide +kernel, of_decide_eq_true h.1, of_decide_eq_true h.2⟩

/-- Whether a character is a lower-case letter from `a` to `z` up to simple case folding, which
adds to the capital letters a third form of `s`, the long s, and of `k`, the Kelvin sign. -/
def foldsTo (letter c : Char) : Bool :=
  c.toLower = letter || (letter = 's' && c = '\u017F') || (letter = 'k' && c = '\u212A')

/-- What follows a keyword that a text starts with. -/
def afterKeyword? : List Char → List Char → Option (List Char)
  | [], cs => some cs
  | _ :: _, [] => none
  | k :: ks, c :: cs => if foldsTo k c then afterKeyword? ks cs else none

/-- Whether a text starts with a word character. -/
def startsInWord : List Char → Bool
  | [] => false
  | c :: _ => isWordChar c

/-- Whether a text starts with a keyword that ends where its word ends. -/
def startsWithKeyword (keyword cs : List Char) : Bool :=
  match afterKeyword? keyword cs with
  | some rest => !startsInWord rest
  | none => false

/-- The search for keywords. A position right after a word character starts no word. -/
def keywordFrom (keywords : List (List Char)) : Bool → List Char → Bool
  | _, [] => false
  | inWord, c :: cs =>
    !inWord && keywords.any (startsWithKeyword · (c :: cs)) || keywordFrom keywords (isWordChar c) cs

/-- Whether one of the keywords, given in lower case, occurs in a text as a whole word. -/
def containsKeyword (keywords : List (List Char)) (cs : List Char) : Bool :=
  keywordFrom keywords false cs

end SpecReview.Text
