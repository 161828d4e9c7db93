import SeedNavigator.Glob.Basic
import SeedNavigator.Json.Message

/-! What can go wrong, with its causes. -/
namespace SeedNavigator

/-- Why a file cannot be read. -/
inductive ReadFault where
  | missing
  | notDirectory
  | isDirectory
  | tooManyLinks
  | invalidText
  | other (message : String)
  deriving DecidableEq, Repr

def ReadFault.message : ReadFault → String
  | .missing => "No such file or directory (os error 2)"
  | .notDirectory => "Not a directory (os error 20)"
  | .isDirectory => "Is a directory (os error 21)"
  | .tooManyLinks => "Too many levels of symbolic links (os error 40)"
  | .invalidText => "stream did not contain valid UTF-8"
  | .other message => message

/-- Settings that nothing can work with. -/
inductive ConfigFlaw where
  | emptySuffix
  | equalSuffixes
  | blankAlias
  | other (message : String)
  deriving DecidableEq, Repr

def ConfigFlaw.message : ConfigFlaw → String
  | .emptySuffix => "suffixes must not be empty"
  | .equalSuffixes => "controller and view suffixes must differ"
  | .blankAlias => "fallback_alias must not be empty"
  | .other message => message

inductive Error where
  | unreadable (fault : ReadFault)
  | noProjectRoot (path : String)
  /-- A candidate cannot be read, and the settings ask to stop then. -/
  | scanAborted (path : String) (fault : ReadFault)
  | basePathsUnresolved
  | counterpartNotFound (path : String)
  | classNotFound (key path : String)
  | unparsable (message : String)
  /-- The library for patterns does not take the one for an alias. -/
  | invalidPattern (message : String)
  | invalidConfig (flaw : ConfigFlaw)
  | invalidJson (fault : Json.Located)
  | invalidGlob (glob : String) (fault : Glob.Fault)
  | inContext (context : String) (cause : Error)

namespace Error

def globMessage (glob : String) (fault : Glob.Fault) : String :=
  "error parsing glob '" ++ glob ++ "': " ++ fault.message

def message : Error → String
  | .unreadable fault => "IO error: " ++ fault.message
  | .noProjectRoot path => "No project root: " ++ path
  | .scanAborted path fault => "Scan aborted at " ++ path ++ ": " ++ fault.message
  | .basePathsUnresolved => "Base paths are not resolved (no AngularApp descriptor found)"
  | .counterpartNotFound _ => "Not found view/controller"
  | .classNotFound key path => "Controller class '" ++ key ++ "' not found in " ++ path
  | .unparsable message => "Parse error: " ++ message
  | .invalidPattern message => "Pattern error: " ++ message
  | .invalidConfig flaw => "Invalid configuration: " ++ flaw.message
  | .invalidJson fault => "JSON error: " ++ fault.message
  | .invalidGlob glob fault => "Glob error: " ++ globMessage glob fault
  | .inContext context cause => context ++ ": " ++ cause.message

/-- The texts of the causes, from the closest one inwards. A cause is also part of the message above
it. -/
def causes : Error → List String
  | .unreadable fault => [fault.message]
  | .scanAborted _ fault => [fault.message]
  | .invalidPattern message => [message]
  | .invalidJson fault => [fault.message]
  | .invalidGlob glob fault => [globMessage glob fault]
  | .inContext _ cause => cause.message :: cause.causes
  | _ => []

end Error

end SeedNavigator
