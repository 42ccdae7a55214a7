import SpecReview.CommandLine.Target

/-! What a run looks at in a file tree, so that no more than that has to be read from a disk. -/

namespace SpecReview.CommandLine

/-- A path that a run looks at, and whether it looks at all that is beneath it. -/
structure View where
  path : Path
  deep : Bool
  deriving DecidableEq

namespace View

/-- What there is to see on the way along a path and at its end. -/
def along (p : Path) (deep : Bool) : List View :=
  let ss := p.segments
  (List.range ss.length).map (fun n => ⟨Path.ofSegments (ss.take n), false⟩) ++ [⟨p, deep⟩]

/-- What the validation of a target looks at. -/
def ofTarget (p : Path) : List View :=
  along p false ++ along (p.join "specs") true ++ along (Project.baseSpecs p) true

/-- What a run looks at: the settings, the changes and the specs of the project, and whatever
an item may name. -/
def ofInvocation (i : Invocation) : List View :=
  let project :=
    along (i.root.join "config.toml") false ++ along (i.root.join "changes") true
      ++ along (i.root.join "specs") true
  match i.command with
  | .list _ => project
  | .validate o =>
    match o.item with
    | none => project
    | some item =>
      project ++ ofTarget (Project.changePath i.root item)
        ++ along (Project.specPath i.root item) false ++ ofTarget ⟨item⟩

end View

end SpecReview.CommandLine
