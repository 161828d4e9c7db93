import SeedNavigator.Text.Pieces
import SeedNavigator.Text.Lowercase

/-! What kind of document an editor shows: the source of a controller, a view, or neither. -/
namespace SeedNavigator.Path

open SeedNavigator.Text

/-- The last component that is not `.`; there is none in an empty path, in a root, and after `..`. -/
def fileName? (path : List Char) : Option (List Char) :=
  match ((pieces '/' path).filter fun p => p ≠ [] ∧ p ≠ ['.']).getLast? with
  | none => none
  | some name => if name = ['.', '.'] then none else some name

/-- A name that only begins with a dot has no extension. -/
def extension? (path : List Char) : Option (List Char) :=
  match fileName? path with
  | none => none
  | some name =>
    match beforeLast? '.' name with
    | none => none
    | some [] => none
    | some _ => some (afterLast '.' name)

end SeedNavigator.Path

namespace SeedNavigator

open SeedNavigator.Text

inductive DocumentKind where
  | controller
  | view
  | other
  deriving DecidableEq, Repr

namespace DocumentKind

def ofLanguageChars (id : List Char) : DocumentKind :=
  let id := String.ofList (lower id)
  if id = "typescript" ∨ id = "ts" then .controller
  else if id = "html" ∨ id = "htm" then .view
  else .other

def ofLanguageId (id : String) : DocumentKind :=
  ofLanguageChars id.toList

/-- The extension of a path is read as a language id. -/
def ofPath (path : String) : DocumentKind :=
  match Path.extension? path.toList with
  | some extension => ofLanguageChars extension
  | none => .other

def name : DocumentKind → String
  | .controller => "controller"
  | .view => "view"
  | .other => "other"

/-- Only these two have a counterpart to switch to. -/
def isSwitchable : DocumentKind → Bool
  | .controller | .view => true
  | .other => false

end DocumentKind

end SeedNavigator
