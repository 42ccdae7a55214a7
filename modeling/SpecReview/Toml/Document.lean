import SpecReview.Toml.Scalar

/-! The reading of a TOML document. -/

namespace SpecReview.Toml

open Scan

/-- Whether a character may stand in a key without quotes. -/
def isBareKey (c : Char) : Bool :=
  c.isAlphanum || c = '_' || c = '-'

/-- Takes off a part of a key. -/
def keyPart : Scan String := do
  match ← peek? with
  | some c =>
    if Quoted.opens c then Quoted.onOneLine
    else
      let cs ← takeWhile isBareKey
      guard (!cs.isEmpty)
      return String.ofList cs
  | none => failure

/-- Takes off the parts of a key, at most as many as the first argument, and the spaces around
them. -/
def keyParts : Nat → Scan (List String)
  | 0 => failure
  | more + 1 => do
    spaces
    let part ← keyPart
    spaces
    if ← accept '.' then return part :: (← keyParts more)
    return [part]

/-- How many parts a key may have. -/
def keyLimit : Nat := 80

/-- Takes off a key, which stands on one line. -/
def key : Scan Key := do
  let parts ← keyParts keyLimit
  match Key.ofParts? parts with
  | some k => return k
  | none => failure

/-- Takes off a key, the equals sign and a value, given the step for what may stand around the
sign and the step for the value. -/
def keyValue (around : Scan Unit) (value : Scan Value) : Scan (Key × Value) := do
  let k ← key
  around
  char '='
  around
  return (k, ← value)

/-- How deep brackets may be nested. -/
def nestingLimit : Nat := 80

/-- Takes off an array, given the step for its items. -/
def array (item : Scan Value) : Scan Value := do
  char '['
  return .array (← separated item ']' ((← get).length + 1))

/-- Takes off a table in braces, given the step for its values. -/
def bracedTable (value : Scan Value) : Scan Value := do
  char '\x7b'
  let fields ← separated (keyValue gap value) '\x7d' ((← get).length + 1)
  let es ← fields.foldlM (fun es (k, v) => Entries.insertAt? k.last v k.path es) ([] : Entries)
  return .table .braced es

/-- Takes off a value in which brackets are nested no deeper than the first argument. -/
def value : Nat → Scan Value
  | 0 => do
    if (← peek?).any Quoted.opens then return .text (← Quoted.text)
    Scalar.scan
  | depth + 1 => do
    match ← peek? with
    | some '[' => array (value depth)
    | some '\x7b' => bracedTable (value depth)
    | c =>
      if c.any Quoted.opens then return .text (← Quoted.text)
      Scalar.scan

/-- Takes off a header or a key with its value. -/
def statement : Scan Statement := do
  if ← accept '[' then
    if ← accept '[' then
      let k ← key
      char ']'
      char ']'
      return .row k
    let k ← key
    char ']'
    return .header k
  let (k, v) ← keyValue spaces (value nestingLimit)
  return .entry k v

/-- Takes off the statements on at most as many lines as the first argument. -/
def statements : Nat → Scan (List Statement)
  | 0 => failure
  | fuel + 1 => do
    spaces
    let found ←
      match ← peek? with
      | none => pure []
      | some c =>
        if c = '#' || c = '\n' || c = '\r' then pure []
        else pure [← statement]
    spaces
    comment
    if ← newline then return found ++ (← statements fuel)
    guard (← get).isEmpty
    return found

/-- The entries of a document, which may start with a byte order mark. -/
def Entries.ofText? (text : String) : Option Entries := do
  let cs :=
    match text.toList with
    | '\uFEFF' :: cs => cs
    | cs => cs
  Entries.build? [] [] (← whole? (statements (cs.length + 1)) cs)

end SpecReview.Toml
