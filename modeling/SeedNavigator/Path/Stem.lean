import SeedNavigator.Path.Normal

/-! The name a file goes by once its directories and its suffix are gone. -/
namespace SeedNavigator.Path

open SeedNavigator.Text

/-- `users.controller.ts` becomes `users`; a name without the suffix loses its last extension. -/
def stemChars (path suffix : List Char) : List Char :=
  let name := afterLast '/' (normalizeChars path)
  match beforeSuffix? suffix name with
  | some stem => stem
  | none => (beforeLast? '.' name).getD name

def stem (path suffix : String) : String :=
  String.ofList (stemChars path.toList suffix.toList)

end SeedNavigator.Path
