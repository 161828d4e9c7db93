import SeedNavigator.Descriptor.Strategy
import SeedNavigator.Descriptor.Structural
import SeedNavigator.Descriptor.Textual
import SeedNavigator.Error
import SeedNavigator.Log.Event

/-! Recognizing a candidate file under a strategy. -/
namespace SeedNavigator.Descriptor

open SeedNavigator.Script

/-- Each descriptor is looked for in the tree first, and in the text if the tree has none. -/
def recognizeInBoth (tree : Node) (source : String) : Except Crash Recognized :=
  Recognized.search ((Structural.main? tree).map fun main => main.or (Textual.main? source))
    ((Structural.routes tree).map fun routes => if routes.isEmpty then Textual.routes source else routes)

/-- Without a tree there is only the text to look at. -/
def recognizeAutomatically (tree : Except String Node) (source : String) : Except Crash Recognized :=
  match tree with
  | .ok tree => recognizeInBoth tree source
  | .error _ => .ok (Textual.recognize source)

/-- Only the structural strategy cannot do without a tree. -/
def recognizeInTree (tree : Except String Node) : Except (Stop Error) Recognized :=
  match tree with
  | .ok tree => (Structural.recognize tree).mapError .crashed
  | .error message => .error (.failed (.unparsable message))

def recognize (parse : Parser) (strategy : Strategy) (source : String) : Except (Stop Error) Recognized :=
  match strategy with
  | .automatic => (recognizeAutomatically (parse source) source).mapError .crashed
  | .structural => recognizeInTree (parse source)
  | .textual => .ok (Textual.recognize source)

/-- It is told where the tree is missing and the text has to do. -/
def events (parse : Parser) (strategy : Strategy) (source : String) : List Event :=
  match strategy, parse source with
  | .automatic, .error message =>
    [.debug .recognition ("structural scan unavailable (" ++ (Error.unparsable message).message ++
      "), using patterns")]
  | _, _ => []

end SeedNavigator.Descriptor
