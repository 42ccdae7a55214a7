import SpecReview.FileTree

/-! The layout of a project: `specs/<capability>/spec.md` for base specs, and
`changes/<change>/specs/<capability>/spec.md` for deltas. -/

namespace SpecReview

/-- The name of every spec and delta file. -/
def specFile : String := "spec.md"

namespace Node

/-- Named lists in the order of their names, as one list. -/
def inNameOrder (xs : List (String × List (List String))) : List (List String) :=
  (xs.mergeSort (fun x y => x.1 ≤ y.1)).flatMap (·.2)

mutual

/-- The folders in which there is a file of a name, each as the names that lead to it: a walk
that visits the entries of every folder in the order of their names. It passes over what the list
of a folder does not show, and over what is beneath a folder that it cannot get to or cannot open.
It does not follow links. -/
def homes (name : String) : Node → List (List String)
  | .folder access es => inNameOrder (homesInEntries name access es)
  | _ => []
termination_by structural n => n

/-- What each entry adds to the folders. -/
def homesInEntries (name : String) (access : Access) :
    List (String × Node) → List (String × List (List String))
  | [] => []
  | e :: es => homesInEntry name access e :: homesInEntries name access es
termination_by structural es => es

def homesInEntry (name : String) (access : Access) :
    String × Node → String × List (List String)
  | (n, .file _) => (n, if n = name ∧ access.shows n = true then [[]] else [])
  | (n, .folder inner es) =>
    (n, if access.enters n then (homes name (.folder inner es)).map (n :: ·) else [])
  | (n, .link _) => (n, [])
termination_by structural e => e

end

end Node

/-- A delta file of a change, with the capability it is for: its folder within the specs of the
change. -/
structure DeltaFile where
  path : Path
  capability : Path
  deriving DecidableEq

namespace FileTree

/-- The folder that names lead to from a specs folder. -/
def capabilityFolder (specs : Path) (names : List String) : Path :=
  names.foldl Path.join specs

/-- The delta file in a folder beneath a specs folder. -/
def deltaFileIn (specs : Path) (names : List String) : DeltaFile where
  path := (capabilityFolder specs names).join specFile
  capability := Path.ofSegments (names.map String.toList)

/-- The delta files at any depth beneath a specs folder. There is no looking into a folder whose
path is too long, nor into those beneath it, since theirs are longer. -/
def deltaFiles (t : FileTree) (specs : Path) : List DeltaFile :=
  match t.node? specs with
  | some n =>
    ((n.homes specFile).filter fun names => (capabilityFolder specs names).withinLimit).map
      (deltaFileIn specs)
  | none => []

/-- The folders in a folder that are listed and not hidden, in the order of their names. -/
def visibleFolders (t : FileTree) (p : Path) : List String :=
  match t.node? p with
  | some (.folder access es) =>
    ((es.filter fun (name, n) =>
      access.shows name && n.isFolder && name.toList.head? ≠ some '.').map (·.1)).mergeSort
      (fun x y => x ≤ y)
  | _ => []

end FileTree

namespace Project

def changePath (root : Path) (id : String) : Path :=
  (root.join "changes").join id

def specPath (root : Path) (id : String) : Path :=
  ((root.join "specs").join id).join specFile

/-- The changes of a project that are not archived. -/
def changeIds (t : FileTree) (root : Path) : List String :=
  (t.visibleFolders (root.join "changes")).filter (· ≠ "archive")

/-- The capabilities of a project that have a base spec. -/
def specIds (t : FileTree) (root : Path) : List String :=
  (t.visibleFolders (root.join "specs")).filter fun id => t.isFile (specPath root id)

/-- The folder of the base specs for a change: beside the folder that holds the change. -/
def baseSpecs (change : Path) : Path :=
  match (change.parent?.bind (·.parent?)).filter (!·.text.isEmpty) with
  | some project => project.join "specs"
  | none => ((change.join "..").join "..").join "specs"

end Project

end SpecReview
