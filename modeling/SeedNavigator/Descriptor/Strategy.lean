import SeedNavigator.Text.Lowercase

/-! Which recognizer reads descriptors: the one over syntax trees, the one over bare text, or the
second where the first finds nothing. -/
namespace SeedNavigator

inductive Strategy where
  | automatic
  | structural
  | textual
  deriving DecidableEq, Repr

namespace Strategy

def name : Strategy → String
  | .automatic => "auto"
  | .structural => "syntax"
  | .textual => "pattern"

/-- What a user may call a strategy, in any case of letters. -/
def parse? (text : String) : Option Strategy :=
  let word := String.ofList (Text.lower text.toList)
  if word = "auto" then some .automatic
  else if word = "syntax" ∨ word = "ast" then some .structural
  else if word = "pattern" ∨ word = "regex" then some .textual
  else none

end Strategy

end SeedNavigator
