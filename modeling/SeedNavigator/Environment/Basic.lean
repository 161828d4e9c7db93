import SeedNavigator.Environment.Aliases

/-! What a scan finds out about a project: the two directories that relate controllers to views, the
alias of each route, and what became of every candidate file. -/
namespace SeedNavigator

structure BasePaths where
  controllers : String
  views : String
  deriving DecidableEq, Repr

/-- What one candidate file contributed. -/
inductive Outcome where
  | mainDescriptor
  | routes (count : Nat)
  | noMatch
  | unreadable (message : String)
  deriving DecidableEq, Repr

/-- Only files with a descriptor count towards recognizing a project. -/
def Outcome.isMatch : Outcome → Bool
  | .mainDescriptor | .routes _ => true
  | .noMatch | .unreadable _ => false

structure ScannedSource where
  path : String
  outcome : Outcome
  deriving DecidableEq, Repr

structure Environment where
  root : String
  basePaths : Option BasePaths := none
  aliases : Aliases := .empty
  sources : List ScannedSource := []
  deriving DecidableEq, Repr

namespace Environment

def isValid (env : Environment) : Bool :=
  env.sources.any (·.outcome.isMatch)

def alias? (env : Environment) (route : String) : Option String :=
  env.aliases.get? route

end Environment

end SeedNavigator
