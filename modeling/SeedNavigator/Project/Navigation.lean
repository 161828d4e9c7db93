import SeedNavigator.Path.Document
import SeedNavigator.Project.Basic

/-! Switching between a controller and its view. -/
namespace SeedNavigator.Navigation

/-- Where to switch to from a document, whether or not there is a file. -/
def mapping (mapper : Mapper) (kind : DocumentKind) (path : String) : Mapping :=
  match kind with
  | .controller => mapper.toView path
  | .view => mapper.toController path
  | .other => .unchanged path

variable {m : Type → Type} [Monad m]

/-- The counterpart of a document, if it is a file. -/
def counterpart (host : Host m) (mapper : Mapper) (kind : DocumentKind) (path : String) :
    Work m String := do
  match mapping mapper kind path with
  | .unchanged _ => Work.fail (.counterpartNotFound path)
  | .mapped _ target =>
    if ← Work.ask (host.isFile target) then
      Work.tell [.debug .navigation (path ++ " -> " ++ target)]
      return target
    else
      Work.tell [.info .navigation ("counterpart " ++ target ++ " does not exist")]
      Work.fail (.counterpartNotFound target)

end SeedNavigator.Navigation
