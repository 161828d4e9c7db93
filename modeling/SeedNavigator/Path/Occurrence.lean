import SeedNavigator.Text.Pieces

/-! Where a directory such as `src/app/views` stands inside a path. Occurrences are taken from the
right, none overlapping the one before, and the first that begins and ends at a separator counts:
it is the one closest to the file name. -/
namespace SeedNavigator.Path

open SeedNavigator.Text

/-- The text on both sides of an occurrence. -/
structure Split where
  before : List Char
  after : List Char
  deriving DecidableEq, Repr

/-- `before` is given in reverse. -/
def startsClean (segment before : List Char) : Bool :=
  before.isEmpty || before.head? = some '/' || segment.head? = some '/'

def endsClean (after : List Char) : Bool :=
  after.isEmpty || after.head? = some '/'

/-- Walks to the left through the reversed rest of a path. `skip` characters more belong to an
occurrence that was refused. -/
def searchBack (segment : List Char) : (skip : Nat) → (left after : List Char) → Option Split
  | _, [], _ => none
  | skip + 1, c :: left, after => searchBack segment skip left (c :: after)
  | 0, c :: left, after =>
    match afterPrefix? segment.reverse (c :: left) with
    | none => searchBack segment 0 left (c :: after)
    | some before =>
      if startsClean segment before && endsClean after then some ⟨before.reverse, after⟩
      else searchBack segment (segment.length - 1) left (c :: after)

/-- The empty text and `.` name no directory that could be found again. -/
def findSegment (path segment : List Char) : Option Split :=
  if segment = [] ∨ segment = ['.'] then none
  else searchBack segment 0 path.reverse []

end SeedNavigator.Path
