import SeedNavigator.Config.Reader
import SeedNavigator.Error
import SeedNavigator.Text.Blank

/-! Which settings the rest of the program can work with. -/
namespace SeedNavigator.Config

def flaw? (config : Config) : Option ConfigFlaw :=
  if config.controllerSuffix.isEmpty || config.viewSuffix.isEmpty then some .emptySuffix
  else if config.controllerSuffix = config.viewSuffix then some .equalSuffixes
  else if (Text.trim config.fallbackAlias.toList).isEmpty then some .blankAlias
  else none

def parseGlob (glob : String) : Except Error Glob :=
  (Glob.parse glob).mapError (.invalidGlob glob)

def validate (config : Config) : Except Error Unit :=
  match config.flaw? with
  | some flaw => .error (.invalidConfig flaw)
  | none => (parseGlob config.candidateGlob).map fun _ => ()

/-- Settings from the text of a file. -/
def ofText (text : String) : Except Error Config := do
  let config ← (parse text).mapError Error.invalidJson
  config.validate
  pure config

end SeedNavigator.Config
