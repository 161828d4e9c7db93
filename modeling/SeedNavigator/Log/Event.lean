import SeedNavigator.Text.Pieces

/-! What the program tells about its work besides its answers. -/
namespace SeedNavigator

inductive Level where
  | error
  | warn
  | info
  | debug
  deriving DecidableEq, Repr

/-- The part of the program that an event comes from. -/
inductive Area where
  | commands
  | settings
  | candidates
  | scan
  | recognition
  | navigation
  | completion
  deriving DecidableEq, Repr

structure Event where
  level : Level
  area : Area
  message : String
  deriving DecidableEq, Repr

def Level.name : Level → String
  | .error => "ERROR"
  | .warn => "WARN"
  | .info => "INFO"
  | .debug => "DEBUG"

namespace Event

def warn (area : Area) (message : String) : Event := ⟨.warn, area, message⟩
def info (area : Area) (message : String) : Event := ⟨.info, area, message⟩
def debug (area : Area) (message : String) : Event := ⟨.debug, area, message⟩

end Event

end SeedNavigator
