import SeedNavigator.Config.Basic
import SeedNavigator.Json.Reader

/-! Settings files. Fields that are missing keep their defaults, and unknown ones are passed over. -/
namespace SeedNavigator.Config

open SeedNavigator.Json

def fields : List String :=
  ["candidate_glob", "controller_suffix", "view_suffix", "fallback_alias", "read_failure_policy",
    "scan_strategy", "max_file_size"]

def policies : List (String × FailurePolicy) :=
  [FailurePolicy.keepPartial, .abort].map fun policy => (policy.name, policy)

def strategies : List (String × Strategy) :=
  [Strategy.automatic, .structural, .textual].map fun strategy => (strategy.name, strategy)

/-- One field of the settings, with its value at the front of the source. -/
def readField (config : Config) (field : String) (source : Source) : Read (Config × Source) := do
  match field with
  | "candidate_glob" =>
    let (text, rest) ← readText "a string" source
    pure ({ config with candidateGlob := text }, rest)
  | "controller_suffix" =>
    let (text, rest) ← readText "a string" source
    pure ({ config with controllerSuffix := text }, rest)
  | "view_suffix" =>
    let (text, rest) ← readText "a string" source
    pure ({ config with viewSuffix := text }, rest)
  | "fallback_alias" =>
    let (text, rest) ← readText "a string" source
    pure ({ config with fallbackAlias := text }, rest)
  | "read_failure_policy" =>
    let (policy, rest) ← readChoice policies source
    pure ({ config with failurePolicy := policy }, rest)
  | "scan_strategy" =>
    let (strategy, rest) ← readChoice strategies source
    pure ({ config with strategy := strategy }, rest)
  | "max_file_size" =>
    let (size, rest) ← readNatural source
    pure ({ config with maxFileSize := size }, rest)
  | _ => pure (config, source)

def parse (text : String) : Except Located Config :=
  readWhole (readRecord "struct Config" fields readField {}) text

end SeedNavigator.Config
