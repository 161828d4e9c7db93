import SeedNavigator.Text.Lowercase

/-! The outline of a source: its classes and interfaces with their members. -/
namespace SeedNavigator

inductive TypeKind where
  | classType
  | interfaceType
  deriving DecidableEq, Repr

inductive MemberKind where
  | method
  | property
  /-- A getter or a setter. -/
  | accessor
  deriving DecidableEq, Repr

/-- From where a member can be reached. -/
inductive Access where
  | everywhere
  | subclasses
  | ownClass
  deriving DecidableEq, Repr

def TypeKind.name : TypeKind → String
  | .classType => "class"
  | .interfaceType => "interface"

def MemberKind.name : MemberKind → String
  | .method => "method"
  | .property => "property"
  | .accessor => "accessor"

def Access.name : Access → String
  | .everywhere => "public"
  | .subclasses => "protected"
  | .ownClass => "private"

/-- The access that a modifier grants. -/
def Access.ofWord (word : String) : Access :=
  if word = Access.ownClass.name then .ownClass
  else if word = Access.subclasses.name then .subclasses
  else .everywhere

structure Member where
  name : String
  kind : MemberKind
  access : Access
  isStatic : Bool
  /-- The declared type of a property or an accessor, as it is written. -/
  declaredType : Option String := none
  /-- The parameters of a method and what it returns, as they are written. -/
  signature : Option String := none
  deriving DecidableEq, Repr

namespace Member

def isPublic (member : Member) : Bool :=
  member.access = .everywhere

/-- What there is to say of a member besides its name. -/
def detail? (member : Member) : Option String :=
  member.signature.or member.declaredType

end Member

structure TypeDefinition where
  name : String
  kind : TypeKind
  members : List Member
  deriving DecidableEq, Repr

def TypeDefinition.publicMembers (type : TypeDefinition) : List Member :=
  type.members.filter (·.isPublic)

structure Outline where
  types : List TypeDefinition
  deriving DecidableEq, Repr

namespace Outline

/-- The first type of a name. -/
def find? (outline : Outline) (name : String) : Option TypeDefinition :=
  outline.types.find? (·.name = name)

/-- Names are compared without case and without dashes, underscores and points. -/
def simplified (name : String) : List Char :=
  Text.lower (name.toList.filter fun c => c ≠ '-' && c ≠ '_' && c ≠ '.')

def isNamedAfter (key : List Char) (type : TypeDefinition) : Bool :=
  let name := simplified type.name
  name = key || name = key ++ "controller".toList

/-- The class of a controller: `users` finds `Users` as well as `UsersController`. -/
def controllerClass? (outline : Outline) (key : String) : Option TypeDefinition :=
  (outline.types.filter (·.kind = .classType)).find? (isNamedAfter (simplified key))

end Outline

end SeedNavigator
