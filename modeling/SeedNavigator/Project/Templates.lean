import SeedNavigator.Completion.Suggestions
import SeedNavigator.Outline.Members
import SeedNavigator.Project.Basic

/-! Completion in the views of a project: each view gets the members of its own controller, under the
alias of its route. -/
namespace SeedNavigator

namespace Outline

variable {m : Type → Type} [Monad m]

/-- The outline of the text of a file. -/
def ofText (parse : Script.Parser) (path text : String) : Except Error Outline :=
  match parse text with
  | .ok tree => .ok (ofTree tree)
  | .error message => .error (.inContext ("analyzing " ++ path) (.unparsable message))

def ofFile (host : Host m) (path : String) : Work m Outline := do
  Work.settle (ofText host.parse path (← Work.readText host path))

/-- The outline of a controller's file, and the name of its class. -/
def ofController (host : Host m) (path key : String) : Work m (Outline × String) := do
  let outline ← ofFile host path
  match outline.controllerClass? key with
  | some type => return (outline, type.name)
  | none => Work.fail (.classNotFound key path)

end Outline

namespace Templates

/-- The alias of a controller in its view. -/
def aliasFor (project : Project) (mapper : Mapper) (controller : String) : String :=
  (mapper.routeAlias? project.environment controller).getD project.config.fallbackAlias

def deadEndEvents (name : String) : Completion.Outcome → List Event
  | .deadEnd chain =>
    [.debug .completion ("cannot follow " ++ name ++ "." ++ ".".intercalate chain)]
  | _ => []

variable {m : Type → Type} [Monad m]

/-- The controller of a view, if it is a file. -/
def controllerFor (host : Host m) (mapper : Mapper) (view : String) : Work m String := do
  match mapper.toController view with
  | .unchanged _ => Work.fail (.counterpartNotFound view)
  | .mapped _ target =>
    if ← Work.ask (host.isFile target) then return target
    else Work.fail (.counterpartNotFound target)

/-- The pattern that finds an alias in a text is made anew for each completion. -/
def checkAlias (host : Host m) (name : String) : Work m Unit :=
  match host.patternFault? name with
  | some message => Work.fail (.invalidPattern message)
  | none => pure ()

/-- What can be written at a cursor in the text of a view. -/
def complete (host : Host m) (project : Project) (mapper : Mapper) (view text : String)
    (offset : Nat) : Work m (List Completion.Suggestion) := do
  let controller ← controllerFor host mapper view
  let (outline, className) ← Outline.ofController host controller (mapper.classKey controller)
  let name := aliasFor project mapper controller
  checkAlias host name
  let outcome := Completion.suggest name outline className (Completion.textBefore text offset)
  Work.tell (deadEndEvents name outcome)
  return outcome.suggestions

end Templates

end SeedNavigator
