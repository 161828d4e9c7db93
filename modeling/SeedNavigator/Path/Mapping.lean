import SeedNavigator.Environment.Basic
import SeedNavigator.Path.Occurrence
import SeedNavigator.Path.Stem

/-! From a controller to its view and back. The base directory and the suffix are exchanged, and
what stands between them is kept: `src/app/controllers/users.controller.ts` belongs to
`src/app/views/users.html`. -/
namespace SeedNavigator

open SeedNavigator.Text

inductive Mapping where
  | mapped (source target : String)
  /-- There is no counterpart by convention; the path is the one that was asked for. -/
  | unchanged (path : String)
  deriving DecidableEq, Repr

namespace Mapping

def path : Mapping → String
  | .mapped _ target => target
  | .unchanged path => path

def target? : Mapping → Option String
  | .mapped _ target => some target
  | .unchanged _ => none

end Mapping

/-- One side of the relation: a base directory and a file suffix. -/
structure Side where
  base : String
  suffix : String
  deriving DecidableEq, Repr

structure Mapper where
  controllers : Side
  views : Side
  deriving DecidableEq, Repr

namespace Mapper

/-- A file directly named by its suffix has no name of its own to carry over. -/
def isNameless (below : List Char) : Bool :=
  (below.dropWhile (· = '/')).isEmpty || below.getLast? = some '/'

/-- The source and the target of a normalized path, if it lies on side `source`. -/
def relocateChars (source target : Side) (normal : List Char) : Option (List Char) :=
  match Path.findSegment normal source.base.toList, beforeSuffix? source.suffix.toList normal with
  | some place, some stem =>
    let below := stem.drop (place.before.length + source.base.toList.length)
    if isNameless below then none
    else some (place.before ++ target.base.toList ++ below ++ target.suffix.toList)
  | _, _ => none

def relocate (source target : Side) (path : String) : Mapping :=
  let normal := Path.normalizeChars path.toList
  match relocateChars source target normal with
  | some counterpart => .mapped (String.ofList normal) (String.ofList counterpart)
  | none => .unchanged path

def toView (mapper : Mapper) (path : String) : Mapping :=
  relocate mapper.controllers mapper.views path

def toController (mapper : Mapper) (path : String) : Mapping :=
  relocate mapper.views mapper.controllers path

/-- The key under which a controller's class is looked up. -/
def classKey (mapper : Mapper) (path : String) : String :=
  Path.stem path mapper.controllers.suffix

/-- The path of a controller below the base directory, without its suffix. -/
def routeKey? (mapper : Mapper) (path : String) : Option String :=
  match Path.findSegment (Path.normalizeChars path.toList) mapper.controllers.base.toList with
  | none => none
  | some place =>
    match beforeSuffix? mapper.controllers.suffix.toList (place.after.dropWhile (· = '/')) with
    | none => none
    | some [] => none
    | some key => some (String.ofList key)

/-- Routes are written with or without a leading slash, or by the bare name of the controller. -/
def routeAlias? (mapper : Mapper) (env : Environment) (path : String) : Option String :=
  match mapper.routeKey? path with
  | none => none
  | some key => [key, "/" ++ key, mapper.classKey path].findSome? env.alias?

end Mapper

end SeedNavigator
