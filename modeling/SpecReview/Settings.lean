/-! The settings of a project. -/

namespace SpecReview

/-- The limits that base specs are held to, and whether review is strict unless told otherwise.
A requirement may have any length where no limit is set. -/
structure Settings where
  minPurposeLength : Nat
  maxRequirementLength : Option Nat
  strict : Bool
  deriving DecidableEq

namespace Settings

/-- The settings of a project that has none of its own. -/
def standard : Settings where
  minPurposeLength := 50
  maxRequirementLength := none
  strict := false

end Settings

end SpecReview
