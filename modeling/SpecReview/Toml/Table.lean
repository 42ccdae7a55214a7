/-! The values and tables of a TOML document, and the rules on what may be added to a table. -/

namespace SpecReview.Toml

/-- How a table comes about, which decides what may be added to it. -/
inductive TableKind where
  /-- By a header of its own. -/
  | headed
  /-- By the header of a table within it. -/
  | implied
  /-- By a dotted key. -/
  | dotted
  /-- In braces, after which it is closed. -/
  | braced
  deriving DecidableEq

/-- A value. Of floats and of dates and times only the spelling is kept. -/
inductive Value where
  | text (s : String)
  | integer (n : Int)
  | boolean (b : Bool)
  | float (spelling : String)
  | moment (spelling : String)
  | array (items : List Value)
  /-- Tables under one header, which is repeated for each. -/
  | rows (tables : List (List (String × Value)))
  | table (kind : TableKind) (entries : List (String × Value))

/-- The entries of a table. No two of them have one key. -/
abbrev Entries := List (String × Value)

namespace Entries

/-- Entries with one of them replaced, or added where there is none of the key. -/
def set (key : String) (v : Value) : Entries → Entries
  | [] => [(key, v)]
  | (k, old) :: es => if k = key then (k, v) :: es else (k, old) :: set key v es

/-- Adds an entry under a new key. -/
def insert? (key : String) (v : Value) (es : Entries) : Option Entries :=
  if (es.lookup key).isSome then none else some (es ++ [(key, v)])

/-- Adds an entry under a key that further keys lead to. They may lead through tables that
dotted keys made, and past others but not right into them. -/
def insertAt? (key : String) (v : Value) : List String → Entries → Option Entries
  | [], es => insert? key v es
  | k :: ks, es => do
    let new ←
      match es.lookup k with
      | none => (insertAt? key v ks []).map (.table .dotted)
      | some (.table .dotted sub) => (insertAt? key v ks sub).map (.table .dotted)
      | some (.table .implied sub) =>
        if ks.isEmpty then none else (insertAt? key v ks sub).map (.table .implied)
      | some (.rows tables) =>
        if ks.isEmpty then none
        else do
          let last ← insertAt? key v ks (← tables.getLast?)
          pure (.rows (tables.dropLast ++ [last]))
      | some _ => none
    pure (set k new es)

/-- Changes the table that the keys of a header lead to, which are those of tables made before
or implied by it. Of rows the last one is meant. -/
def alterAt? (f : Entries → Option Entries) : List String → Entries → Option Entries
  | [], es => f es
  | k :: ks, es => do
    let new ←
      match es.lookup k with
      | none => (alterAt? f ks []).map (.table .implied)
      | some (.table .braced _) => none
      | some (.table kind sub) => (alterAt? f ks sub).map (.table kind)
      | some (.rows tables) => do
        let last ← alterAt? f ks (← tables.getLast?)
        pure (.rows (tables.dropLast ++ [last]))
      | some _ => none
    pure (set k new es)

/-- Makes a table with a header of its own, unless there is one. -/
def addTable? (key : String) (es : Entries) : Option Entries :=
  match es.lookup key with
  | none => some (es ++ [(key, .table .headed [])])
  | some (.table .implied sub) => some (set key (.table .headed sub) es)
  | some _ => none

/-- Adds a row under a header that may be repeated. -/
def addRow? (key : String) (es : Entries) : Option Entries :=
  match es.lookup key with
  | none => some (es ++ [(key, .rows [[]])])
  | some (.rows tables) => some (set key (.rows (tables ++ [[]])) es)
  | some _ => none

end Entries

/-- A key with the keys that lead to it. -/
structure Key where
  path : List String
  last : String

namespace Key

/-- A key as the list of its parts, of which there is at least one. -/
def ofParts? (parts : List String) : Option Key :=
  parts.getLast?.map fun last => ⟨parts.dropLast, last⟩

def parts (k : Key) : List String :=
  k.path ++ [k.last]

end Key

/-- A line of a document that adds to it. -/
inductive Statement where
  | header (key : Key)
  | row (key : Key)
  | entry (key : Key) (v : Value)

namespace Entries

/-- The entries of the document that statements make, given the entries so far and the keys of
the header that the statements come under. -/
def build? : List String → Entries → List Statement → Option Entries
  | _, es, [] => some es
  | _, es, .header key :: ss => do
    build? key.parts (← alterAt? (addTable? key.last) key.path es) ss
  | _, es, .row key :: ss => do
    build? key.parts (← alterAt? (addRow? key.last) key.path es) ss
  | header, es, .entry key v :: ss => do
    build? header (← alterAt? (insertAt? key.last v key.path) header es) ss

end Entries

end SpecReview.Toml
