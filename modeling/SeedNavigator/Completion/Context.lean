import SeedNavigator.Text.Boundary
import SeedNavigator.Text.Pieces
import SeedNavigator.Text.Word

/-! Where a cursor stands in a template: at the end of an access such as `vm.user.na`, which begins
with the alias of the controller. -/
namespace SeedNavigator.Completion

open SeedNavigator.Text

/-- The members between the alias and the cursor, and the beginning of a name before the cursor. -/
structure Context where
  chain : List String
  typed : String
  deriving DecidableEq, Repr

def startsName (c : Char) : Bool :=
  c.isAlpha || c = '_' || c = '$'

def continuesName (c : Char) : Bool :=
  isWord c || c = '$'

def isName : List Char → Bool
  | [] => false
  | c :: rest => startsName c && rest.all continuesName

/-- Names with points between them; only the last may be empty. -/
def namesOf? : List (List Char) → Option Context
  | [] => none
  | [last] => if last.isEmpty || isName last then some ⟨[], String.ofList last⟩ else none
  | name :: rest =>
    if isName name then
      (namesOf? rest).map fun context => { context with chain := String.ofList name :: context.chain }
    else none

/-- What follows the alias, read to the end of the text. -/
def access? : List Char → Option Context
  | '.' :: rest => namesOf? (pieces '.' rest)
  | _ => none

/-- An alias is not the end of a longer name or a member of something else. -/
def mayPrecede (c : Char) : Bool :=
  !(isWord c || c = '$' || c = '.')

def accessHere? (name : List Char) (before : Option Char) (text : List Char) : Option Context :=
  if before.all mayPrecede then (afterPrefix? name text).bind access? else none

/-- The leftmost access that reaches the end of the text. -/
def contextFrom (name : List Char) : (before : Option Char) → (text : List Char) → Option Context
  | before, [] => accessHere? name before []
  | before, c :: rest =>
    (accessHere? name before (c :: rest)).or (contextFrom name (some c) rest)

/-- The context at the end of the text before the cursor. -/
def context? (name text : String) : Option Context :=
  contextFrom name.toList none text.toList

/-! ### Cursors -/

/-- A cursor inside a character counts as one before it, and one past the end as one at the end. -/
def boundaryBefore? (text : String) (offset : Nat) : Option Nat :=
  lastBoundary? text (min offset text.utf8ByteSize)

def textBefore? (text : String) (offset : Nat) : Option String :=
  (boundaryBefore? text offset).bind (upTo? text)

theorem isSome_textBefore? (text : String) (offset : Nat) : (textBefore? text offset).isSome := by
  obtain ⟨place, found⟩ := exists_lastBoundary? text (min offset text.utf8ByteSize)
  rw [textBefore?, boundaryBefore?, found, Option.bind_some, upTo?, isBoundary_of_lastBoundary? found]
  rfl

/-- The text before a cursor, wherever it stands. -/
def textBefore (text : String) (offset : Nat) : String :=
  (textBefore? text offset).get (isSome_textBefore? text offset)

end SeedNavigator.Completion
