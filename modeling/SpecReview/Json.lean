/-! JSON values and their two layouts: on one line, and with a line for every item. -/

namespace SpecReview.Json

inductive Value where
  | number (n : Nat)
  | boolean (b : Bool)
  | text (s : String)
  | list (items : List Value)
  | record (fields : List (String × Value))

/-- A character within quotes: quotes, backslashes and control characters are escaped. -/
def escape (c : Char) : List Char :=
  match c with
  | '\x22' => ['\\', '\x22']
  | '\\' => ['\\', '\\']
  | '\x08' => ['\\', 'b']
  | '\t' => ['\\', 't']
  | '\n' => ['\\', 'n']
  | '\x0c' => ['\\', 'f']
  | '\r' => ['\\', 'r']
  | c =>
    if c.toNat < 0x20 then
      ['\\', 'u', '0', '0', Nat.digitChar (c.toNat / 16), Nat.digitChar (c.toNat % 16)]
    else [c]

def quote (s : String) : String :=
  "\"" ++ String.ofList (s.toList.flatMap escape) ++ "\""

/-- Whether items stand on lines of their own. -/
inductive Layout where
  | compact
  | spread
  deriving DecidableEq

namespace Layout

/-- What stands before an item or a closing bracket at a depth. -/
def lineBreak (depth : Nat) : Layout → String
  | compact => ""
  | spread => "\n" ++ String.ofList (List.replicate (2 * depth) ' ')

def colon : Layout → String
  | compact => ":"
  | spread => ": "

/-- Items in brackets, with a comma between each two. -/
def bracket (layout : Layout) (depth : Nat) (left right : String) : List String → String
  | [] => left ++ right
  | items =>
    left ++ ",".intercalate (items.map (layout.lineBreak (depth + 1) ++ ·))
      ++ layout.lineBreak depth ++ right

end Layout

mutual

/-- The text of a value whose brackets are at a depth. -/
def render (layout : Layout) (depth : Nat) : Value → String
  | .number n => toString n
  | .boolean true => "true"
  | .boolean false => "false"
  | .text s => quote s
  | .list items => layout.bracket depth "[" "]" (renderItems layout (depth + 1) items)
  | .record fields =>
    layout.bracket depth "\x7b" "\x7d" (renderFields layout (depth + 1) fields)
termination_by structural v => v

def renderItems (layout : Layout) (depth : Nat) : List Value → List String
  | [] => []
  | v :: vs => render layout depth v :: renderItems layout depth vs
termination_by structural vs => vs

def renderFields (layout : Layout) (depth : Nat) : List (String × Value) → List String
  | [] => []
  | f :: fs => renderField layout depth f :: renderFields layout depth fs
termination_by structural fs => fs

def renderField (layout : Layout) (depth : Nat) : String × Value → String
  | (key, v) => quote key ++ layout.colon ++ render layout depth v
termination_by structural f => f

end

mutual

/-- A value with the fields of every record in the order of their keys. -/
def sortFields : Value → Value
  | .list items => .list (sortItems items)
  | .record fields => .record ((sortEach fields).mergeSort (fun f g => f.1 ≤ g.1))
  | v => v
termination_by structural v => v

def sortItems : List Value → List Value
  | [] => []
  | v :: vs => sortFields v :: sortItems vs
termination_by structural vs => vs

def sortEach : List (String × Value) → List (String × Value)
  | [] => []
  | f :: fs => sortOne f :: sortEach fs
termination_by structural fs => fs

def sortOne : String × Value → String × Value
  | (key, v) => (key, sortFields v)
termination_by structural f => f

end

end SpecReview.Json
