import SpecReview.Issue

/-! The colours of the output. -/

namespace SpecReview.CommandLine

inductive Tint where
  | success
  | failure
  | caution
  | note
  | faint
  deriving DecidableEq

namespace Tint

/-- The terminal sequences around a coloured text. -/
def sequences : Tint → String × String
  | success => ("\x1b[38;2;000;128;000m", "\x1b[39m")
  | failure => ("\x1b[38;2;255;000;000m", "\x1b[39m")
  | caution => ("\x1b[38;2;255;165;000m", "\x1b[39m")
  | note => ("\x1b[38;2;173;216;230m", "\x1b[39m")
  | faint => ("\x1b[2m", "\x1b[0m")

def ofSeverity : Severity → Tint
  | .error => failure
  | .warning => caution
  | .info => note

/-- A text in a colour, if there is to be any. -/
def apply (color : Bool) (t : Tint) (text : String) : String :=
  if color then t.sequences.1 ++ text ++ t.sequences.2 else text

end Tint

end SpecReview.CommandLine
