import SeedNavigator.Path.Join
import SeedNavigator.Proofs.Path.NormalForm

/-! Putting names below a directory and taking the directory off again. What is taken off is counted in names,
so the slashes and points of the directory do not matter. -/
namespace SeedNavigator.Path

open SeedNavigator.Text

variable {directory below : List Char} {segments front : List Segment} {segment : Segment}

/-- A directory as it stands in front of a name. -/
def opened (directory : List Char) : List Char :=
  if directory.isEmpty || directory.getLast? = some '/' then directory else directory ++ ['/']

/-- A path that leads from a directory through names to other names. -/
structure Spells (base : String) (segments : List Segment) : Prop where
  text : base.toList = glue '/' segments
  proper : ∀ segment ∈ segments, IsProper segment

variable {root base : String} {way : List String}

end SeedNavigator.Path
