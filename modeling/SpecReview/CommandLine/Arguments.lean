import SpecReview.Path

/-! The arguments of the command line, read from left to right: options of the program or of a
command, their values, and operands. -/

namespace SpecReview.CommandLine

/-- What can be validated. -/
inductive Kind where
  | change
  | spec
  deriving DecidableEq

namespace Kind

def label : Kind → String
  | .change => "change"
  | .spec => "spec"

def ofLabel? (s : String) : Option Kind :=
  [change, spec].find? (·.label = s)

end Kind

structure ValidateOptions where
  item : Option String
  kind : Option Kind
  all : Bool
  changes : Bool
  specs : Bool
  strict : Bool
  json : Bool
  deriving DecidableEq

structure ListOptions where
  specs : Bool
  json : Bool
  deriving DecidableEq

inductive Command where
  | validate (options : ValidateOptions)
  | list (options : ListOptions)
  deriving DecidableEq

/-- A command with the project it is for. -/
structure Invocation where
  root : Path
  command : Command
  deriving DecidableEq

/-- Why there is nothing to run: the arguments are refused, or ask for a text only. -/
inductive Stop where
  | usage
  | help
  | version
  deriving DecidableEq

inductive Opt where
  | verbose
  | root
  | kind
  | all
  | changes
  | specs
  | strict
  | json
  | help
  | version
  deriving DecidableEq

namespace Opt

def takesValue : Opt → Bool
  | root => true
  | kind => true
  | _ => false

def longName : Opt → String
  | verbose => "verbose"
  | root => "root"
  | kind => "type"
  | all => "all"
  | changes => "changes"
  | specs => "specs"
  | strict => "strict"
  | json => "json"
  | help => "help"
  | version => "version"

def shortName? : Opt → Option Char
  | verbose => some 'v'
  | root => some 'r'
  | help => some 'h'
  | version => some 'V'
  | _ => none

/-- Whether an option can have a value. -/
def admits : Opt → String → Bool
  | root, v => !v.isEmpty
  | kind, v => (Kind.ofLabel? v).isSome
  | _, _ => false

end Opt

/-- Whose options and operands arguments are. -/
inductive Level where
  | program
  | validate
  | list
  deriving DecidableEq

namespace Level

def options : Level → List Opt
  | program => [.verbose, .root, .help, .version]
  | validate =>
    [.kind, .all, .changes, .specs, .strict, .json, .verbose, .root, .help]
  | list => [.specs, .json, .verbose, .root, .help]

/-- How many operands there may be. -/
def operands : Level → Nat
  | validate => 1
  | _ => 0

end Level

/-- The names of commands, of which `help` is one. -/
def commandNames : List String :=
  ["validate", "list", "help"]

/-- What the arguments so far have given. An option may wait for its value, or be left pending
with it; options that are pending are not held to any rule yet. -/
structure Given where
  flags : List Opt := []
  values : List (Opt × String) := []
  operands : List String := []
  pending : Option (Opt × Option String) := none
  /-- Whether all further arguments are operands. -/
  literal : Bool := false
  deriving DecidableEq

namespace Given

def has (g : Given) (o : Opt) : Bool :=
  g.flags.contains o

def value? (g : Given) (o : Opt) : Option String :=
  g.values.lookup o

/-- Takes up an option with its value, which may be given once. -/
def take (g : Given) (o : Opt) (v : String) : Except Stop Given :=
  if o.admits v && (g.value? o).isNone then .ok { g with values := g.values ++ [(o, v)] }
  else .error .usage

/-- Takes up the option that is pending. -/
def settle (g : Given) : Except Stop Given :=
  match g.pending with
  | none => .ok g
  | some (_, none) => .error .usage
  | some (o, some v) => { g with pending := none }.take o v

/-- Takes up a flag. Apart from the verbosity it may be given once. -/
def flag (g : Given) (o : Opt) : Except Stop Given := do
  let g ← g.settle
  match o with
  | .help => .error .help
  | .version => .error .version
  | .verbose => .ok g
  | o => if g.has o then .error .usage else .ok { g with flags := g.flags ++ [o] }

/-- An option of a level: a flag, or an option with its value or with none yet. -/
def option (g : Given) (o : Opt) (attached : Option String) : Except Stop Given := do
  if o.takesValue then
    let g ← g.settle
    match attached with
    | some v => g.take o v
    | none => .ok { g with pending := some (o, none) }
  else
    match attached with
    | some _ => .error .usage
    | none => g.flag o

/-- An argument after its two dashes: a name, and a value after an equals sign. -/
def long (g : Given) (level : Level) (cs : List Char) : Except Stop Given :=
  let name := String.ofList (cs.takeWhile (· ≠ '='))
  let attached :=
    match cs.dropWhile (· ≠ '=') with
    | _ :: v => some (String.ofList v)
    | [] => none
  match level.options.find? (·.longName = name) with
  | some o => g.option o attached
  | none => .error .usage

/-- An argument after its dash: flags, and at the end an option with its value. -/
def short (level : Level) : Given → List Char → Except Stop Given
  | g, [] => .ok g
  | g, c :: cs =>
    match level.options.find? (·.shortName? = some c) with
    | none => .error .usage
    | some o =>
      if o.takesValue then
        match cs with
        | [] => g.option o none
        | '=' :: v => g.option o (some (String.ofList v))
        | v => g.option o (some (String.ofList v))
      else do
        short level (← g.flag o) cs

def operand (g : Given) (level : Level) (arg : String) : Except Stop Given := do
  let g ← g.settle
  if g.operands.length < level.operands then .ok { g with operands := g.operands ++ [arg] }
  else .error .usage

/-- Whether the next argument is the value of an option, if it can be one. -/
def awaits (g : Given) : Bool :=
  match g.pending with
  | some (_, none) => true
  | _ => false

/-- One argument. -/
def argument (g : Given) (level : Level) (arg : String) : Except Stop Given :=
  if g.literal then g.operand level arg
  else
    match arg.toList with
    | ['-', '-'] => .ok { g with literal := true }
    | '-' :: '-' :: cs => g.long level cs
    | '-' :: c :: cs => short level g (c :: cs)
    | _ =>
      match g.pending with
      | some (o, none) => .ok { g with pending := some (o, some arg) }
      | _ => g.operand level arg

/-- The arguments of a command. -/
def arguments (level : Level) : Given → List String → Except Stop Given
  | g, [] => g.settle
  | g, arg :: args => do arguments level (← g.argument level arg) args

end Given

namespace ValidateOptions

def ofGiven (g : Given) : ValidateOptions where
  item := g.operands.head?
  kind := (g.value? .kind).bind Kind.ofLabel?
  all := g.has .all
  changes := g.has .changes
  specs := g.has .specs
  strict := g.has .strict
  json := g.has .json

/-- Whether options exclude each other: an item and every choice of several, and the choice of
everything and any other. -/
def clash (o : ValidateOptions) : Bool :=
  (o.item.isSome && (o.all || o.changes || o.specs)) || (o.all && (o.changes || o.specs))

end ValidateOptions

namespace Invocation

/-- A command with its arguments. -/
def commandOf (name : String) (args : List String) : Except Stop (Command × Given) :=
  match name with
  | "validate" => do
    let g ← Given.arguments .validate {} args
    let options := ValidateOptions.ofGiven g
    if options.clash then .error .usage else .ok (.validate options, g)
  | "list" => do
    let g ← Given.arguments .list {} args
    .ok (.list ⟨g.has .specs, g.has .json⟩, g)
  | _ =>
    match args with
    | [] => .error .help
    | [topic] => if topic ∈ commandNames then .error .help else .error .usage
    | _ => .error .usage

/-- Reads arguments, after what the program's own have given, up to the name of a command. The
root that a command names goes before that of the program. -/
def ofArguments (g : Given) : List String → Except Stop Invocation
  | [] => .error .usage
  | arg :: args => do
    if !g.literal && !g.awaits && arg ∈ commandNames then
      let (command, own) ← commandOf arg args
      let g ← g.settle
      let root := (own.value? .root).getD ((g.value? .root).getD ".")
      .ok ⟨⟨root⟩, command⟩
    else ofArguments (← g.argument .program arg) args

end Invocation

end SpecReview.CommandLine
