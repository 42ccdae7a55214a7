import SpecReview.Delta

/-! Whether a delta can be merged into the base spec that it is for. -/

namespace SpecReview

/-- Why a delta cannot be merged, with the names as the delta writes them. -/
inductive Obstacle where
  /-- There is no base spec, and the delta does more than add. -/
  | noBase (op : Operation)
  | modifiedMissing (name : String)
  | removedMissing (name : String)
  | renameSourceMissing (source : String)
  | renameTargetTaken (source target : String)
  | alreadyExists (name : String)
  deriving DecidableEq

namespace Obstacle

def message : Obstacle → String
  | .noBase op =>
    "target spec does not exist; only ADDED is allowed (found " ++ op.keyword ++ ")"
  | .modifiedMissing name =>
    "MODIFIED requirement \"" ++ name ++ "\" does not exist in base spec"
  | .removedMissing name =>
    "REMOVED requirement \"" ++ name ++ "\" does not exist in base spec"
  | .renameSourceMissing source =>
    "RENAMED requirement \"" ++ source ++ "\" does not exist in base spec"
  | .renameTargetTaken source target =>
    "RENAMED target \"" ++ target ++ "\" (from \"" ++ source
      ++ "\") already exists in base spec"
  | .alreadyExists name =>
    "ADDED requirement \"" ++ name ++ "\" already exists in base spec"

end Obstacle

namespace Delta

/-- What stands in the way of a delta for which there is no base spec. -/
def obstacleWithoutBase? (d : Delta) : Option Obstacle :=
  if !(d.requirements .modified).isEmpty then some (.noBase .modified)
  else if !(d.requirements .removed).isEmpty then some (.noBase .removed)
  else if !d.completeRenames.isEmpty then some (.noBase .renamed)
  else none

/-- What stands in the way of a rename, given the canonical names of the base spec. A rename
that only changes the spelling of a name takes no other name. -/
def renameObstacle? (existing : List String) (r : Rename) : Option Obstacle :=
  if r.sourceKey ∉ existing then some (.renameSourceMissing r.source)
  else if r.targetKey ≠ r.sourceKey ∧ r.targetKey ∈ existing then
    some (.renameTargetTaken r.source r.target)
  else none

/-- The first obstacle to a delta, given the canonical names of the base spec. A requirement to
modify may go by the new name that a rename gives to one of them. -/
def obstacleAmong? (existing : List String) (d : Delta) : Option Obstacle :=
  let renamed := (d.completeRenames.filter (·.sourceKey ∈ existing)).map (·.targetKey)
  ((d.requirements .modified).findSome? fun r =>
      if r.key ∈ existing ∨ r.key ∈ renamed then none else some (.modifiedMissing r.name))
    <|> ((d.requirements .removed).findSome? fun r =>
      if r.key ∈ existing then none else some (.removedMissing r.name))
    <|> d.completeRenames.findSome? (renameObstacle? existing)
    <|> (d.requirements .added).findSome? fun r =>
      if r.key ∈ existing then some (.alreadyExists r.name) else none

/-- The first obstacle to merging a delta into a base spec, which may be absent. -/
def obstacle? (d : Delta) : Option String → Option Obstacle
  | none => d.obstacleWithoutBase?
  | some base => d.obstacleAmong? ((Requirement.inText base).map (·.key))

end Delta

end SpecReview
