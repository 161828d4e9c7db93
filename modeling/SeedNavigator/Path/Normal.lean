import SeedNavigator.Text.Pieces

/-! The normal form of a path: slashes as separators, no empty or `.` segment, and `..` only where
nothing is left to go up from. Paths are taken as they are written; the file system is not asked. -/
namespace SeedNavigator.Path

open SeedNavigator.Text

abbrev Segment := List Char

def here : Segment := ['.']
def up : Segment := ['.', '.']

/-- The device marks of Windows, `\\?\` and `\\.\`, say nothing about the place of a file. -/
def dropDeviceMark : List Char → List Char
  | '\\' :: '\\' :: '?' :: '\\' :: rest => rest
  | '\\' :: '\\' :: '.' :: '\\' :: rest => rest
  | path => path

def unifySeparators (path : List Char) : List Char :=
  (dropDeviceMark path).map fun c => if c = '\\' then '/' else c

def isAbsolute (path : List Char) : Bool :=
  path.head? = some '/'

/-- One segment met on the way; `stack` has the deepest directory first. An absolute path cannot go
above its root, a relative one keeps what it cannot resolve. -/
def enter (absolute : Bool) (stack : List Segment) (segment : Segment) : List Segment :=
  if segment = [] ∨ segment = here then stack
  else if segment = up then
    match stack with
    | [] => if absolute then [] else [up]
    | last :: before => if last = up then up :: last :: before else before
  else segment :: stack

/-- The segments that remain of a path with unified separators, outermost first. -/
def resolved (path : List Char) : List Segment :=
  ((pieces '/' path).foldl (enter (isAbsolute path)) []).reverse

def render (absolute : Bool) (segments : List Segment) : List Char :=
  if absolute then '/' :: glue '/' segments
  else if segments.isEmpty then here
  else glue '/' segments

def normalizeChars (path : List Char) : List Char :=
  let unified := unifySeparators path
  render (isAbsolute unified) (resolved unified)

def withSlashes (path : String) : String :=
  String.ofList (unifySeparators path.toList)

def normalize (path : String) : String :=
  String.ofList (normalizeChars path.toList)

end SeedNavigator.Path
