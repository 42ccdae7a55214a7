import SpecReview.Toml.Quoted
import SpecReview.Toml.Table

/-! Values without quotes or brackets: truth values, integers, floats, dates and times. -/

namespace SpecReview.Toml

open Scan

/-- Whether a character is a digit in a base. -/
def isDigitIn (base : Nat) (c : Char) : Bool :=
  match Quoted.hexValue? c with
  | some n => n < base
  | none => false

/-- Digits without the underscores among them, each of which stands between two digits. -/
def ungroup? (isDigit : Char → Bool) : List Char → Option (List Char)
  | [] => none
  | [c] => if isDigit c then some [c] else none
  | c :: '_' :: cs => if isDigit c then (ungroup? isDigit cs).map (c :: ·) else none
  | c :: d :: cs => if isDigit c then (ungroup? isDigit (d :: cs)).map (c :: ·) else none

/-- The digits of a decimal number, which starts with a zero only if that is all of it. -/
def decimal? (cs : List Char) : Option (List Char) := do
  let digits ← ungroup? Char.isDigit cs
  guard (digits.head? ≠ some '0' || digits.length = 1)
  pure digits

/-- A text without its sign, and whether that is a minus. -/
def unsigned : List Char → Bool × List Char
  | '-' :: cs => (true, cs)
  | '+' :: cs => (false, cs)
  | cs => (false, cs)

/-- An integer as it is written, of any size. -/
def wholeNumber? (cs : List Char) : Option Int :=
  match cs with
  | '0' :: 'x' :: cs => (ungroup? (isDigitIn 16) cs).map (Quoted.numberIn 16 ·)
  | '0' :: 'o' :: cs => (ungroup? (isDigitIn 8) cs).map (Quoted.numberIn 8 ·)
  | '0' :: 'b' :: cs => (ungroup? (isDigitIn 2) cs).map (Quoted.numberIn 2 ·)
  | cs =>
    let (negative, cs) := unsigned cs
    (decimal? cs).map fun digits =>
      let n : Int := Quoted.numberIn 10 digits
      if negative then -n else n

/-- The least integer that a document may hold, which has 64 bits with a sign. -/
def integerMin : Int := -0x8000000000000000

/-- The greatest integer that a document may hold, which has 64 bits without a sign. -/
def integerMax : Int := 0xFFFFFFFFFFFFFFFF

/-- The least magnitude that rounds to infinity in double precision. -/
def floatLimit : Nat := Nat.pow 2 1024 - Nat.pow 2 970

/-- Whether a decimal number, its digits times a power of ten, rounds to a finite float. -/
def isFinite (digits : List Char) (exponent : Int) : Bool :=
  let digits := digits.dropWhile (· = '0')
  let size := digits.length + exponent
  if digits.isEmpty || size ≤ 300 then true
  else if 310 ≤ size then false
  else
    let n := Quoted.numberIn 10 digits
    if 0 ≤ exponent then n * Nat.pow 10 exponent.toNat < floatLimit
    else n < floatLimit * Nat.pow 10 (-exponent).toNat

/-- The exponent of a float, after the letter. -/
def exponent? (cs : List Char) : Option Int := do
  let (negative, cs) := unsigned cs
  let n : Int := Quoted.numberIn 10 (← ungroup? Char.isDigit cs)
  pure (if negative then -n else n)

/-- Whether a text is a float that is finite or written as infinite or as no number. -/
def isFloat (cs : List Char) : Bool :=
  let (_, cs) := unsigned cs
  let isPart := fun c : Char => c.isDigit || c = '_'
  let finite : Option Bool := do
    let front ← decimal? (cs.takeWhile isPart)
    match cs.dropWhile isPart with
    | '.' :: rest =>
      let back ← ungroup? Char.isDigit (rest.takeWhile isPart)
      let exponent ←
        match rest.dropWhile isPart with
        | [] => pure 0
        | e :: rest => if e = 'e' || e = 'E' then exponent? rest else none
      pure (isFinite (front ++ back) (exponent - back.length))
    | e :: rest => if e = 'e' || e = 'E' then (exponent? rest).map (isFinite front) else none
    | [] => none
  cs = "inf".toList || cs = "nan".toList || finite = some true

namespace Moment

/-- Takes off a number of that many digits. -/
def number (digits : Nat) : Scan Nat := do
  return Quoted.numberIn 10 (← exactly Char.isDigit digits)

def daysIn (year month : Nat) : Nat :=
  if month = 2 then
    if year % 4 = 0 && (year % 100 ≠ 0 || year % 400 = 0) then 29 else 28
  else if month = 4 || month = 6 || month = 9 || month = 11 then 30
  else 31

def date : Scan Unit := do
  let year ← number 4
  char '-'
  let month ← number 2
  char '-'
  let day ← number 2
  guard (1 ≤ month && month ≤ 12 && 1 ≤ day && day ≤ daysIn year month)

/-- Hours and minutes. -/
def clock : Scan Unit := do
  let hour ← number 2
  char ':'
  let minute ← number 2
  guard (hour ≤ 23 && minute ≤ 59)

/-- A time, which may leave out its seconds. A leap second is a second. -/
def time : Scan Unit := do
  clock
  if ← accept ':' then
    guard ((← number 2) ≤ 60)
    if ← accept '.' then
      guard (!(← takeWhile Char.isDigit).isEmpty)

/-- The distance from universal time, which may be left out. -/
def offset : Scan Unit := do
  match ← get with
  | [] => pure ()
  | c :: cs =>
    set cs
    if c = '+' || c = '-' then clock else guard (c = 'Z' || c = 'z')

def dateTime : Scan Unit := do
  date
  match ← get with
  | c :: cs =>
    guard (c = 'T' || c = 't' || c = ' ')
    set cs
    time
    offset
  | [] => failure

def isDate (cs : List Char) : Bool :=
  (whole? date cs).isSome

def isMoment (cs : List Char) : Bool :=
  isDate cs || (whole? time cs).isSome || (whole? dateTime cs).isSome

end Moment

namespace Scalar

/-- Whether a character ends a value without quotes. -/
def ends (c : Char) : Bool :=
  isSpace c || c = '\n' || c = '\r' || c = ',' || c = ']' || c = '\x7d' || c = '#'

/-- The value of a text without quotes. -/
def value? (cs : List Char) : Option Value :=
  if cs = "true".toList then some (.boolean true)
  else if cs = "false".toList then some (.boolean false)
  else
    match wholeNumber? cs with
    | some n => if integerMin ≤ n && n ≤ integerMax then some (.integer n) else none
    | none =>
      if isFloat cs then some (.float (String.ofList cs))
      else if Moment.isMoment cs then some (.moment (String.ofList cs))
      else none

/-- Takes off a value without quotes. A space may stand between a date and a time. -/
def scan : Scan Value := do
  let front ← takeWhile (!ends ·)
  match ← get with
  | ' ' :: c :: cs =>
    if Moment.isDate front && c.isDigit then
      set (c :: cs)
      let back ← takeWhile (!ends ·)
      value? (front ++ ' ' :: back)
    else value? front
  | _ => value? front

end Scalar

end SpecReview.Toml
