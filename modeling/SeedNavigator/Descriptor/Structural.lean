import SeedNavigator.Descriptor.Basic
import SeedNavigator.Script.Program

/-! Descriptors read from the syntax tree of a source. Only literals count: what is bound to anything
else is not a base path, and an object without both literals is no route. The program breaks down over a
literal that it cannot take the quotes off. -/
namespace SeedNavigator.Descriptor.Structural

open SeedNavigator.Script

/-! ### Base paths -/

/-- A value that is given to a field of the application class. -/
structure Gift where
  field : Option String
  value : Node

/-- A literal that is given to a field of the application class. -/
structure Binding where
  field : String
  value : String
  deriving DecidableEq, Repr

/-- A class inside an expression does not count, whatever its name. -/
def isAppClass (node : Node) : Bool :=
  (node.kind = .classDeclaration || node.kind = .abstractClassDeclaration) &&
    (node.child? .name).any (·.text = appClass)

def staticGift? (member : Node) : Option Gift :=
  if member.kind = .fieldDefinition && member.hasKeyword "static" then
    (member.child? .value).map fun value => ⟨(member.child? .name).map (·.text), value⟩
  else none

def classGifts (node : Node) : List Gift :=
  if isAppClass node then
    match node.child? .body with
    | some body => body.children.filterMap staticGift?
    | none => []
  else []

def assignedGift? (node : Node) : Option Gift :=
  if node.kind = .assignment then do
    let left ← node.child? .left
    let right ← node.child? .right
    if left.kind = .memberAccess && (left.child? .object).any (·.text = appClass) then
      some ⟨(left.child? .property).map (·.text), right⟩
    else none
  else none

def nodeGifts (node : Node) : List Gift :=
  classGifts node ++ (assignedGift? node).toList

/-- The static fields of a class come before everything inside the class. -/
def gifts (tree : Node) : List Gift :=
  tree.visit.flatMap nodeGifts

/-- All values are read for literals, whatever the field. -/
def Gift.binding? (gift : Gift) : Except Crash (Option Binding) :=
  gift.value.literal?.map fun literal => do some ⟨← gift.field, ← literal⟩

def bindings (tree : Node) : Except Crash (List Binding) :=
  collect Gift.binding? (gifts tree)

/-- The last literal of a field is the one in force. -/
def lastValue? (field : String) (bindings : List Binding) : Option String :=
  (bindings.reverse.find? (·.field = field)).map (·.value)

def mainOf? (tree : Node) (bindings : List Binding) : Option MainDescriptor :=
  if tree.visit.any isAppClass then do
    let controllers ← lastValue? controllersField bindings
    let views ← lastValue? viewsField bindings
    some ⟨controllers, views⟩
  else none

def main? (tree : Node) : Except Crash (Option MainDescriptor) :=
  (bindings tree).map (mainOf? tree)

/-! ### Routes -/

def pathKey : String := "path"
def aliasKey : String := "controllerAs"

/-- A pair under one of the keys of a route, with its value if that is a literal. -/
structure Entry where
  key : String
  value : Option String
  deriving DecidableEq, Repr

/-- Keys may be quoted. -/
def keyText? (key : Node) : Except Crash (Option String) :=
  if key.kind = .string then key.literal? else .ok (some key.text)

/-- Only the values under the keys of a route are read for literals. -/
def entryOf? (value : Node) (key : Option String) : Except Crash (Option Entry) :=
  match key with
  | some key =>
    if key = pathKey ∨ key = aliasKey then value.literal?.map fun literal => some ⟨key, literal⟩
    else .ok none
  | none => .ok none

def entered? (pair : Node) : Except Crash (Option Entry) :=
  if pair.kind = .pair then
    match pair.child? .key, pair.child? .value with
    | some key, some value => keyText? key >>= entryOf? value
    | _, _ => .ok none
  else .ok none

/-- The value of the last pair with a key, if it is a literal. -/
def lastEntered? (key : String) (entries : List Entry) : Option String :=
  (entries.reverse.find? (·.key = key)).bind (·.value)

def routeOf? (entries : List Entry) : Option Route := do
  let path ← lastEntered? pathKey entries
  let as ← lastEntered? aliasKey entries
  some ⟨path, as⟩

def route? (node : Node) : Except Crash (Option Route) :=
  if node.kind = .object then (collect entered? node.children).map routeOf? else .ok none

def routes (tree : Node) : Except Crash (List Route) :=
  collect route? tree.visit

def recognize (tree : Node) : Except Crash Recognized :=
  Recognized.search (main? tree) (routes tree)

end SeedNavigator.Descriptor.Structural
