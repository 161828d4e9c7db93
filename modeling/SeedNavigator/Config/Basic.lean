import SeedNavigator.Descriptor.Strategy

/-! What a user can set: which files are searched for descriptors and how, and how controllers and views
are named. -/
namespace SeedNavigator

/-- What happens when a candidate file cannot be read. -/
inductive FailurePolicy where
  /-- The failure is noted, and the scan goes on. -/
  | keepPartial
  | abort
  deriving DecidableEq, Repr

def FailurePolicy.name : FailurePolicy → String
  | .keepPartial => "keep-partial"
  | .abort => "abort"

structure Config where
  /-- Which files are candidates, relative to the root of the project. -/
  candidateGlob : String := "src/app/*.ts"
  controllerSuffix : String := ".controller.ts"
  viewSuffix : String := ".html"
  /-- The alias in templates whose route declares none. -/
  fallbackAlias : String := "vm"
  failurePolicy : FailurePolicy := .keepPartial
  strategy : Strategy := .automatic
  /-- Larger candidates are not read. -/
  maxFileSize : Nat := 1048576
  deriving DecidableEq, Repr

namespace Config

/-- The settings file in the root of a project. -/
def fileName : String := ".atse.json"

end Config

end SeedNavigator
