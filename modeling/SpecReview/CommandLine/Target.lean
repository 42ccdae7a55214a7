import SpecReview.CommandLine.Arguments
import SpecReview.Review.Change

/-! The targets of a validation: the changes and specs of a project by their ids, and others by
their paths. -/

namespace SpecReview.CommandLine

/-- A change or a spec. -/
structure Target where
  id : String
  kind : Kind
  path : Path
  deriving DecidableEq

/-- Why a command fails. -/
inductive Failure where
  | nothingChosen
  | unknown (item : String)
  | noneNamed (kind : Kind) (item : String)
  | ambiguous (item : String)
  | unreviewed (target : Target) (cause : ReviewError)
  deriving DecidableEq

namespace Target

def change (root : Path) (id : String) : Target :=
  ⟨id, .change, Project.changePath root id⟩

def spec (root : Path) (id : String) : Target :=
  ⟨id, .spec, Project.specPath root id⟩

def named (root : Path) (id : String) : Kind → Target
  | .change => change root id
  | .spec => spec root id

/-- Whether a path leads to what a target of a kind is. -/
def fits (t : FileTree) (p : Path) : Kind → Bool
  | .change => t.isFolder p
  | .spec => t.isFile p

/-- The target that an item names. Ids go before paths, and an id that names both a change and
a spec needs a kind. -/
def resolve (t : FileTree) (root : Path) (item : String) : Option Kind → Except Failure Target
  | some kind =>
    if fits t (named root item kind).path kind then .ok (named root item kind)
    else if fits t ⟨item⟩ kind then .ok ⟨item, kind, ⟨item⟩⟩
    else .error (.noneNamed kind item)
  | none =>
    match fits t (change root item).path .change, fits t (spec root item).path .spec with
    | true, true => .error (.ambiguous item)
    | true, false => .ok (change root item)
    | false, true => .ok (spec root item)
    | false, false =>
      if t.isFile ⟨item⟩ then .ok ⟨item, .spec, ⟨item⟩⟩
      else if t.isFolder ⟨item⟩ then .ok ⟨item, .change, ⟨item⟩⟩
      else .error (.unknown item)

/-- The report on a target. -/
def report (t : FileTree) (settings : Settings) (strict : Bool) (target : Target) :
    Except ReviewError Report :=
  match target.kind with
  | .change => Change.report t strict target.path
  | .spec => Base.report t settings strict target.path

/-- The changes of a project, if wanted, and then its specs, if wanted. -/
def ofProject (t : FileTree) (root : Path) (changes specs : Bool) : List Target :=
  (if changes then (Project.changeIds t root).map (change root) else [])
    ++ (if specs then (Project.specIds t root).map (spec root) else [])

end Target

namespace Failure

/-- The message of a failure and, after it, those of its causes. -/
def messages : Failure → List String
  | .nothingChosen =>
    ["Nothing to validate. Pass an item, or use --all, --changes or --specs"]
  | .unknown item => ["Unknown item '" ++ item ++ "'"]
  | .noneNamed kind item => ["No " ++ kind.label ++ " named '" ++ item ++ "'"]
  | .ambiguous item =>
    ["'" ++ item ++ "' is both a change and a spec. Use --type change or --type spec"]
  | .unreviewed target cause =>
    ["Failed to validate " ++ target.kind.label ++ " '" ++ target.id ++ "'", cause.message]
      ++ (cause.cause?.map (·.message)).toList

/-- A text with its lines after the first indented. -/
def indent (width : Nat) (text : String) : String :=
  String.ofList (text.toList.flatMap fun c =>
    if c = '\n' then '\n' :: List.replicate width ' ' else [c])

/-- The causes, which are numbered if there are several. -/
def renderCauses : List String → String
  | [] => ""
  | [cause] => "\n\nCaused by:\n    " ++ indent 4 cause
  | causes =>
    "\n\nCaused by:" ++ String.join (causes.mapIdx fun n cause =>
      "\n    " ++ toString n ++ ": " ++ indent 7 cause)

/-- The text of a failure. -/
def render (f : Failure) : String :=
  match f.messages with
  | [] => ""
  | message :: causes => "Error: " ++ message ++ renderCauses causes ++ "\n"

end Failure

end SpecReview.CommandLine
