import SpecReview.CommandLine.Run
import SpecReview.CommandLine.View

/-! The program: it reads from the disk what a run looks at, runs, and writes the outcome. -/

namespace SpecReview

/-- The names that lead to an absolute path. -/
def placeOf (path : String) : List String :=
  ((Path.split path.toList).filter (!Path.idle ·)).map String.ofList

/-- The cause that the system gives for a failure. -/
def causeOf : IO.Error → String
  | .permissionDenied _ code details => details ++ " (os error " ++ toString code ++ ")"
  | .hardwareFault code details => details ++ " (os error " ++ toString code ++ ")"
  | .otherError code details => details ++ " (os error " ++ toString code ++ ")"
  | e => e.toString

/-- The content of a file, or the cause for which it cannot be read. -/
def contentOf (path : String) : IO (Except String ByteArray) := do
  try return .ok (← IO.FS.readBinFile path)
  catch e => return .error (causeOf e)

/-- The entries of a folder by their names, or the cause for which it cannot be opened. -/
def entriesOf (path : String) : IO (Except String (List String)) := do
  try return .ok ((← IO.FS.realPath path >>= (·.readDir)).toList.map (·.fileName))
  catch e => return .error (causeOf e)

/-- The place of the entry that a path ends with, where it ends with a name. -/
def entryPlace? (path : Path) : IO (Option (List String)) := do
  match path.parent?, path.components.2.getLast? with
  | some parent, some name =>
    if Path.idle name || name = ['.', '.'] then return none
    let above ← IO.FS.realPath (if parent.text.isEmpty then "." else parent.text)
    return some (placeOf above.toString ++ [String.ofList name])
  | _, _ => return none

/-- Whether there is a link at an absolute path. -/
def isLink (path : String) : IO Bool := do
  let entry ← entryPlace? ⟨path⟩
  try return entry ≠ some (placeOf (← IO.FS.realPath path).toString)
  catch _ => return false

/-- Adds to a tree what the disk has at a path and, if it is a link, what that leads to; with all
that is beneath a folder, if so wanted, but nothing beneath the links there. What cannot be looked
up is left out. -/
partial def load (tree : FileTree) (path : String) (deep : Bool) : IO FileTree := do
  try
    let real ← IO.FS.realPath path
    let place := placeOf real.toString
    let put (tree : FileTree) (place : List String) (n : Node) : FileTree :=
      { tree with root := tree.root.insert place n }
    let entry := (← entryPlace? ⟨path⟩).getD place
    let tree := if entry = place then tree else put tree entry (.link ⟨real.toString⟩)
    match (← real.metadata).type with
    | .dir =>
      match ← entriesOf real.toString with
      | .ok names =>
        let tree := put tree place (.folder .full [])
        if deep then
          names.foldlM (fun tree name => do
            let path := real.toString ++ "/" ++ name
            load tree path (!(← isLink path))) tree
        else return tree
      | .error cause => return put tree place (.folder { Access.full with closed := some cause } [])
    | .file => return put tree place (.file (← contentOf real.toString))
    | _ => return tree
  catch _ => return tree

/-- The part of the disk that a run looks at. -/
def loadViews (views : List CommandLine.View) : IO FileTree := do
  let current ← IO.FS.realPath "."
  let start : FileTree := ⟨.folder .full [], placeOf current.toString⟩
  let start ← load start "." false
  views.foldlM (fun tree view =>
    if view.path.text.isEmpty then pure tree else load tree view.path.text view.deep) start

/-- Colours are for terminals, unless the environment forces or forbids them. -/
def wantsColor : IO Bool := do
  let forced := (← IO.getEnv "FORCE_COLOR").any (fun v => v ≠ "0" && v ≠ "false")
  let forbidden := (← IO.getEnv "NO_COLOR").isSome
  return forced || (!forbidden && (← (← IO.getStdout).isTty))

end SpecReview

open SpecReview in
/-- Runs the program on its arguments and the disk. -/
def main (args : List String) : IO UInt32 := do
  let views :=
    match CommandLine.Invocation.ofArguments {} args with
    | .ok i => CommandLine.View.ofInvocation i
    | .error _ => []
  let out := CommandLine.run (← loadViews views) (← wantsColor) args
  IO.print out.output
  IO.eprint out.errors
  return out.status.toUInt32
