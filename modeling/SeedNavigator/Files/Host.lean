import SeedNavigator.Environment.Listing
import SeedNavigator.Error
import SeedNavigator.Log.Event
import SeedNavigator.Script.Program

/-! What the program asks of the machine it runs on, and of the libraries there. All that it does is written over
these questions, so it runs on a real file system as well as on a tree of files in memory. -/
namespace SeedNavigator

structure Host (m : Type → Type) where
  /-- Links are followed to what they lead to, here and for files. -/
  isDirectory : (path : String) → m Bool
  isFile : (path : String) → m Bool
  readBytes : (path : String) → m (Except ReadFault ByteArray)
  /-- What lies below a directory. Links inside it are not followed. -/
  list : (path : String) → m Listing
  workingDirectory : m String
  parse : Script.Parser := Script.parser
  /-- What the library for patterns has against the one for an alias. It takes any that is not too long. -/
  patternFault? : (name : String) → Option String := fun _ => none

/-- A file has to hold well-formed text. -/
def decodeText (content : ByteArray) : Except ReadFault String :=
  match String.fromUTF8? content with
  | some text => .ok text
  | none => .error .invalidText

def Host.readText {m : Type → Type} [Monad m] (host : Host m) (path : String) :
    m (Except ReadFault String) := do
  return (← host.readBytes path).bind decodeText

/-- Work that asks the machine, tells events on the way, and may end early. The events before that are
kept. -/
abbrev Work (m : Type → Type) := ExceptT (Stop Error) (StateT (List Event) m)

namespace Work

variable {m : Type → Type} [Monad m] {α : Type}

def tell (events : List Event) : Work m Unit :=
  modify (· ++ events)

def ask (question : m α) : Work m α :=
  ExceptT.lift (StateT.lift question)

def fail (error : Error) : Work m α :=
  throw (.failed error)

def conclude (result : Except (Stop Error) α) : Work m α :=
  match result with
  | .ok value => pure value
  | .error stop => throw stop

def settle (result : Except Error α) : Work m α :=
  conclude (result.mapError .failed)

def readText (host : Host m) (path : String) : Work m String := do
  settle ((← ask (host.readText path)).mapError Error.unreadable)

/-- The result and the events, in the order in which they were told. -/
def run (work : Work m α) : m (Except (Stop Error) α × List Event) :=
  StateT.run (ExceptT.run work) []

end Work

end SeedNavigator
