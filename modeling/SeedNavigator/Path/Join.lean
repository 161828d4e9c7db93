import SeedNavigator.Path.Normal

/-! Putting paths together and taking a leading directory off again. Paths stay as they are written:
`a//b` and `a/./b` keep their slashes and points. -/
namespace SeedNavigator.Path

open SeedNavigator.Text

def joinChars (directory below : List Char) : List Char :=
  if isAbsolute below then below
  else if directory.isEmpty || directory.getLast? = some '/' then directory ++ below
  else directory ++ '/' :: below

/-- A path below a directory. An absolute path stays what it is. -/
def join (directory below : String) : String :=
  String.ofList (joinChars directory.toList below.toList)

/-! ### Taking a directory off -/

/-- How a path begins: at the root, at the current directory by an explicit point, or with a name. -/
inductive Beginning where
  | root
  | here
  | name
  deriving DecidableEq, Repr

def beginning : List Char → Beginning
  | '/' :: _ => .root
  | ['.'] => .here
  | '.' :: '/' :: _ => .here
  | _ => .name

/-- Empty segments and points inside a path lead nowhere. -/
def isIdle (segment : List Char) : Bool :=
  segment.isEmpty || segment = ['.']

def names (path : List Char) : List (List Char) :=
  (pieces '/' path).filter fun segment => !isIdle segment

/-- The path without the slashes and points in front of its first name. -/
def fromFirstName (path : List Char) : List Char :=
  glue '/' ((pieces '/' path).dropWhile isIdle)

def dropName (path : List Char) : List Char :=
  glue '/' (((pieces '/' path).dropWhile isIdle).drop 1)

def dropNames : (count : Nat) → List Char → List Char
  | 0, path => fromFirstName path
  | count + 1, path => dropNames count (dropName path)

/-- The part of a path below a directory, if the path begins with the directory's names. -/
def below? (directory path : List Char) : Option (List Char) :=
  let start := names directory
  if beginning directory = beginning path && start.isPrefixOf (names path) then
    some (dropNames start.length path)
  else none

/-- The path relative to a directory, or the path itself if it does not lie there. -/
def relativeTo (directory path : String) : String :=
  match below? directory.toList path.toList with
  | some below => String.ofList below
  | none => path

end SeedNavigator.Path
