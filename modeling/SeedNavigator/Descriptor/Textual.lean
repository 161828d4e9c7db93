import SeedNavigator.Descriptor.Basic
import SeedNavigator.Text.Blank
import SeedNavigator.Text.Pieces

/-! Descriptors read from the bare text of a source, whatever its syntax. Of several ways to read a
text, the one that reaches furthest to the right wins. -/
namespace SeedNavigator.Descriptor.Textual

open SeedNavigator.Text

/-- The opening of a value: the mark between name and value, blanks around it, and a quote. -/
def openValue? (mark : Char) (text : List Char) : Option (List Char) :=
  match text.dropWhile isBlank with
  | [] => none
  | c :: rest =>
    if c = mark then
      match rest.dropWhile isBlank with
      | '"' :: value => some value
      | _ => none
    else none

/-- The value that is opened after `name` and `mark`, if `name` stands at the front of the text. -/
def valueOf? (name : List Char) (mark : Char) (text : List Char) : Option (List Char) :=
  (afterPrefix? name text).bind (openValue? mark)

/-- The last place in `text` where `reads` succeeds; a place is counted by the characters from it to
the end of the text. -/
def lastPlaceFrom {α : Type} (reads : List Char → Option α) :
    (text : List Char) → (left : Nat) → Option (Nat × α) → Option (Nat × α)
  | [], _, best => best
  | c :: rest, left, best =>
    lastPlaceFrom reads rest (left - 1) <|
      match reads (c :: rest) with
      | some found => some (left, found)
      | none => best

def lastPlace {α : Type} (reads : List Char → Option α) (text : List Char) : Option (Nat × α) :=
  lastPlaceFrom reads text text.length none

/-! ### Base paths -/

/-- The longest literal on this line that is closed by a quote and a semicolon with at least
`reserve` characters after them; `seen` is what has been passed of the literal, in reverse. -/
def longestLiteral (reserve : Nat) :
    (seen text : List Char) → (left : Nat) → Option (List Char) → Option (List Char)
  | _, [], _, best => best
  | seen, c :: rest, left, best =>
    if c = '\n' then best
    else
      longestLiteral reserve (c :: seen) rest (left - 1) <|
        if c = '"' ∧ rest.head? = some ';' ∧ reserve + 2 ≤ left then some seen.reverse else best

def literal? (reserve : Nat) (value : List Char) : Option (List Char) :=
  longestLiteral reserve [] value value.length none

/-- Any character of the line may stand before the name of the views field. -/
def viewsAt? : List Char → Option (List Char)
  | [] => none
  | c :: rest =>
    if c = '\n' then none
    else (valueOf? viewsField.toList '=' rest).bind (literal? 0)

def controllersAt? (reserve : Nat) (text : List Char) : Option (List Char) :=
  (valueOf? ('.' :: controllersField.toList) '=' text).bind (literal? reserve)

def classHead : List Char :=
  ("class " ++ appClass).toList

/-- Whether the class is named with at least `reserve` characters after its name. -/
def namesClass (reserve : Nat) : (text : List Char) → (left : Nat) → Bool
  | [], _ => false
  | c :: rest, left =>
    (afterPrefix? classHead (c :: rest)).isSome && classHead.length + reserve ≤ left ||
      namesClass reserve rest (left - 1)

def mainChars? (source : List Char) : Option (List Char × List Char) :=
  match lastPlace viewsAt? source with
  | none => none
  | some (viewsPlace, views) =>
    match lastPlace (controllersAt? viewsPlace) source with
    | none => none
    | some (controllersPlace, controllers) =>
      if namesClass controllersPlace source source.length then some (controllers, views) else none

/-- The class, the controllers field and the views field have to follow one another in this order. -/
def main? (source : String) : Option MainDescriptor :=
  (mainChars? source.toList).map fun (controllers, views) =>
    ⟨String.ofList controllers, String.ofList views⟩

/-! ### Routes -/

/-- The ways to end a quoted text whose opening quote has been passed: at each quote that follows a
backslash, and at the first one that does not. The longest text comes first. -/
def closings : (seen text : List Char) → List (List Char × List Char) → List (List Char × List Char)
  | _, [], found => found
  | seen, '"' :: rest, found =>
    if seen.head? = some '\\' then closings ('"' :: seen) rest ((seen.reverse, rest) :: found)
    else (seen.reverse, rest) :: found
  | seen, c :: rest, found => closings (c :: seen) rest found

def quotedTexts (value : List Char) : List (List Char × List Char) :=
  closings [] value []

/-- The last value of `name` that begins on this line, and what follows it. -/
def lastOnLine (name : List Char) :
    List Char → Option (List Char × List Char) → Option (List Char × List Char)
  | [], best => best
  | c :: rest, best =>
    if c = '\n' then best
    else
      lastOnLine name rest <|
        match ((valueOf? name ':' (c :: rest)).bind fun value => (quotedTexts value).head?) with
        | some found => some found
        | none => best

/-- Two values in the given order, the second one on the line where the first one ends; with them,
what follows the second. -/
def pairAt? (first second : List Char) (text : List Char) :
    Option (List Char × List Char × List Char) :=
  (valueOf? first ':' text).bind fun value =>
    (quotedTexts value).findSome? fun (one, rest) =>
      (lastOnLine second rest none).map fun (two, rest) => (one, two, rest)

def pathName : List Char := "path".toList
def aliasName : List Char := "controllerAs".toList

/-- A route that begins here, and the number of characters after it. -/
def routeAt? (text : List Char) : Option (Route × Nat) :=
  match pairAt? aliasName pathName text with
  | some (as, path, rest) => some (⟨String.ofList path, String.ofList as⟩, rest.length)
  | none =>
    (pairAt? pathName aliasName text).map fun (path, as, rest) =>
      (⟨String.ofList path, String.ofList as⟩, rest.length)

/-- Routes do not overlap: the next one is searched for once only `resume` characters are left. -/
def routesFrom : (text : List Char) → (left resume : Nat) → List Route → List Route
  | [], _, _, found => found.reverse
  | c :: rest, left, resume, found =>
    if resume < left then routesFrom rest (left - 1) resume found
    else
      match routeAt? (c :: rest) with
      | some (route, resume) => routesFrom rest (left - 1) resume (route :: found)
      | none => routesFrom rest (left - 1) resume found

def routes (source : String) : List Route :=
  let text := source.toList
  routesFrom text text.length text.length []

def recognize (source : String) : Recognized :=
  .of (main? source) (routes source)

end SeedNavigator.Descriptor.Textual
