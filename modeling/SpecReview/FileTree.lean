import SpecReview.Path

/-! File trees: files, folders and links by name, what the system lets a program see of them, what a
path leads to, and why a file cannot be read. -/

namespace SpecReview

/-- What the system lets a program see of a folder. It may fail to open the folder, leave an entry
out of the list of its entries, or fail to look up a name, among them `.` and `..`. Where it fails
it gives a cause. -/
structure Access where
  closed : Option String
  lists : String → Bool
  bars : String → Option String

namespace Access

/-- All that there is. -/
def full : Access :=
  ⟨none, fun _ => true, fun _ => none⟩

/-- Whether the list of the entries of a folder has the one of a name. -/
def shows (a : Access) (name : String) : Bool :=
  a.closed.isNone && a.lists name

/-- Whether a walk that lists a folder gets to list the one of a name in it. -/
def enters (a : Access) (name : String) : Bool :=
  a.shows name && (a.bars name).isNone

end Access

/-- A file, with the cause for which it cannot be read where it cannot; a folder; or a link to
wherever a path leads from the folder of the link. No two entries of a folder have one name. -/
inductive Node where
  | file (content : Except String ByteArray)
  | folder (access : Access) (entries : List (String × Node))
  | link (target : Path)

/-- Why a text cannot be read from a path. What is refused is refused for a cause of the system
other than that nothing is there. -/
inductive ReadError where
  | notFound
  | notFolder
  | isFolder
  | nameTooLong
  | tooManyLinks
  | notText
  | refused (cause : String)
  deriving DecidableEq

namespace ReadError

def message : ReadError → String
  | .notFound => "No such file or directory (os error 2)"
  | .notFolder => "Not a directory (os error 20)"
  | .isFolder => "Is a directory (os error 21)"
  | .nameTooLong => "File name too long (os error 36)"
  | .tooManyLinks => "Too many levels of symbolic links (os error 40)"
  | .notText => "stream did not contain valid UTF-8"
  | .refused cause => cause

end ReadError

namespace Node

/-- The node at the end of the names that lead to it. Links are not followed. -/
def at? : Node → List String → Option Node
  | n, [] => some n
  | .folder _ es, name :: names =>
    match es.lookup name with
    | some n => n.at? names
    | none => none
  | _, _ :: _ => none

/-- Entries with one of them replaced, or added where there is none of the name. -/
def setEntry (name : String) (new : Node) : List (String × Node) → List (String × Node)
  | [] => [(name, new)]
  | (n, old) :: es => if n = name then (n, new) :: es else (n, old) :: setEntry name new es

/-- A tree with a node put at the end of the names, along with the folders that lead there. An
empty folder put on a folder changes nothing. -/
def insert : Node → List String → Node → Node
  | .folder access es, [], .folder _ [] => .folder access es
  | _, [], new => new
  | .folder access es, name :: names, new =>
    .folder access
      (setEntry name (insert ((es.lookup name).getD (.folder .full [])) names new) es)
  | _, name :: names, new => .folder .full [(name, insert (.folder .full []) names new)]

def isFolder : Node → Bool
  | .folder .. => true
  | _ => false

/-- The text of a file. -/
def text : Node → Except ReadError String
  | .file (.ok content) =>
    match String.fromUTF8? content with
    | some text => .ok text
    | none => .error .notText
  | .file (.error cause) => .error (.refused cause)
  | .folder access _ =>
    match access.closed with
    | some cause => .error (.refused cause)
    | none => .error .isFolder
  | .link _ => .error .notFound

end Node

/-- A tree with the place from which relative paths start, which is a folder. -/
structure FileTree where
  root : Node
  current : List String

/-- A place that a path has led to, as the names from the root, and how many links the path may
still come by. -/
structure Spot where
  place : List String
  links : Nat
  deriving DecidableEq

namespace FileTree

/-- How many bytes a name in a folder may have. -/
def nameLimit : Nat := 255

/-- How many links a path may come by, those on the way along the targets of links included. -/
def linkLimit : Nat := 40

/-- The place that a segment names in a folder. What is there may be a link. -/
def next (t : FileTree) (place : List String) (segment : List Char) :
    Except ReadError (List String) :=
  match t.root.at? place with
  | some (.folder access es) =>
    let name := String.ofList segment
    if segment = [] then .ok place
    else
      match access.bars name with
      | some cause => .error (.refused cause)
      | none =>
        if segment = ['.'] then .ok place
        else if segment = ['.', '.'] then .ok place.dropLast
        else if nameLimit < name.utf8ByteSize then .error .nameTooLong
        else if (es.lookup name).isSome then .ok (place ++ [name])
        else .error .notFound
  | _ => .error .notFolder

/-- Where a segment leads from a place, along the target of the link if it names a link. The targets
of links may lead along links themselves, to a depth that the limit on links does not exceed. -/
def step (t : FileTree) (depth : Nat) (spot : Spot) (segment : List Char) :
    Except ReadError Spot := do
  let place ← t.next spot.place segment
  match t.root.at? place with
  | some (.link target) =>
    match depth with
    | 0 => .error .tooManyLinks
    | depth + 1 =>
      if spot.links = 0 then .error .tooManyLinks
      else
        target.segments.foldlM (t.step depth)
          ⟨if target.isAbsolute then [] else spot.place, spot.links - 1⟩
  | _ => .ok { spot with place }

/-- Where segments lead. -/
def walk (t : FileTree) (spot : Spot) (ss : List (List Char)) : Except ReadError Spot :=
  ss.foldlM (t.step linkLimit) spot

/-- The place from which a path leads on. -/
def start (t : FileTree) (p : Path) : Spot :=
  ⟨if p.isAbsolute then [] else t.current, linkLimit⟩

/-- The place that a path leads to, as the names from the root. Its length is looked at before
its segments. -/
def locate (t : FileTree) (p : Path) : Except ReadError (List String) :=
  if !p.withinLimit then .error .nameTooLong
  else if p.text.isEmpty then .error .notFound
  else (t.walk (t.start p) p.segments).map (·.place)

/-- The node that a path leads to. -/
def node? (t : FileTree) (p : Path) : Option Node :=
  match t.locate p with
  | .ok place => t.root.at? place
  | .error _ => none

def isFolder (t : FileTree) (p : Path) : Bool :=
  (t.node? p).any (·.isFolder)

def isFile (t : FileTree) (p : Path) : Bool :=
  match t.node? p with
  | some (.file _) => true
  | _ => false

/-- The text of the file at a place. -/
def textAt (t : FileTree) (place : List String) : Except ReadError String :=
  match t.root.at? place with
  | some n => n.text
  | none => .error .notFound

/-- The text of the file that a path leads to. -/
def read (t : FileTree) (p : Path) : Except ReadError String :=
  t.locate p >>= t.textAt

/-- The text of a file that may be absent. -/
def readOptional (t : FileTree) (p : Path) : Except ReadError (Option String) :=
  match t.read p with
  | .ok text => .ok (some text)
  | .error .notFound => .ok none
  | .error e => .error e

/-- A path beyond the limit leads nowhere, whatever the tree. -/
theorem locate_of_limit_lt {p : Path} (h : Path.limit < p.text.utf8ByteSize) (t : FileTree) :
    t.locate p = .error .nameTooLong := by
  have h : p.withinLimit = false := by simp [Path.withinLimit, h]
  simp [locate, h]

theorem withinLimit_of_locate {t : FileTree} {p : Path} {place : List String}
    (h : t.locate p = .ok place) : p.withinLimit = true := by
  cases hp : p.withinLimit with
  | true => rfl
  | false => simp [locate, hp] at h

end FileTree

end SpecReview
