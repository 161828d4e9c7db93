import SeedNavigator.Completion.Context
import SeedNavigator.Outline.Basic
import SeedNavigator.Text.Blank

/-! What can be written where a cursor stands: the public members of the controller, or of the type
that a chain of its members leads to. -/
namespace SeedNavigator.Completion

structure Suggestion where
  label : String
  kind : MemberKind
  detail : Option String
  isStatic : Bool
  deriving DecidableEq, Repr

def Suggestion.ofMember (member : Member) : Suggestion :=
  ⟨member.name, member.kind, member.detail?, member.isStatic⟩

/-- The type of a member's declared type, if it is one of the source. A method leads nowhere. -/
def follow? (outline : Outline) (type : TypeDefinition) (name : String) : Option TypeDefinition := do
  let member ← type.publicMembers.find? fun member => member.name = name && member.kind ≠ .method
  let declared ← member.declaredType
  outline.find? (String.ofList (Text.trim declared.toList))

/-- The type at the end of a chain of members. -/
def chainType? (outline : Outline) (className : String) (chain : List String) :
    Option TypeDefinition := do
  chain.foldlM (follow? outline) (← outline.find? className)

/-- In ascending order of the labels; equal labels stay in the order of their declarations. -/
def sorted (suggestions : List Suggestion) : List Suggestion :=
  suggestions.mergeSort fun a b => !(b.label < a.label)

def startsWith (typed label : String) : Bool :=
  (Text.afterPrefix? typed.toList label.toList).isSome

/-- The outcome of a request for suggestions. -/
inductive Outcome where
  /-- The cursor is not at the end of an access. -/
  | noAccess
  /-- The chain leads to no type of the source. -/
  | deadEnd (chain : List String)
  | found (suggestions : List Suggestion)
  deriving DecidableEq, Repr

def Outcome.suggestions : Outcome → List Suggestion
  | .found suggestions => suggestions
  | .noAccess | .deadEnd _ => []

def suggest (name : String) (outline : Outline) (className text : String) : Outcome :=
  match context? name text with
  | none => .noAccess
  | some context =>
    match chainType? outline className context.chain with
    | none => .deadEnd context.chain
    | some type =>
      .found <| sorted <|
        (type.publicMembers.filter fun member => startsWith context.typed member.name).map
          Suggestion.ofMember

end SeedNavigator.Completion
