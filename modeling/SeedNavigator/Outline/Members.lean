import SeedNavigator.Outline.Basic
import SeedNavigator.Script.Program
import SeedNavigator.Text.Blank

/-! Reading the outline off a syntax tree. Nothing is resolved: types and signatures stay the texts
they are in the source. -/
namespace SeedNavigator.Outline

open SeedNavigator.Script

/-! ### Parts of a declaration -/

/-- The type behind the colon. -/
def typeText (clause : Node) : String :=
  String.ofList (Text.trim ((Text.trimLeft clause.text.toList).dropWhile (· = ':')))

def declaredType? (node : Node) : Option String :=
  (node.child? .declaredType).map typeText

def accessWord? (node : Node) : Option String :=
  (node.children.find? (·.kind = .accessibility)).map Node.text

/-- A private name needs no modifier. -/
def accessOf (declaration name : Node) : Access :=
  if name.kind = .privateWord then .ownClass
  else ((accessWord? declaration).map Access.ofWord).getD .everywhere

def signatureText (method : Node) : String :=
  let parameters := ((method.child? .parameters).map Node.text).getD "()"
  match method.child? .returnType with
  | some returned => parameters ++ ": " ++ typeText returned
  | none => parameters

/-! ### Classes -/

/-- A parameter with a modifier is a property of its class too. -/
def parameterProperty? (parameter : Node) : Option Member :=
  if parameter.kind = .requiredParameter || parameter.kind = .optionalParameter then
    let access := accessWord? parameter
    if access.isNone && !parameter.hasKeyword "readonly" then none
    else
      (parameter.child? .pattern).map fun pattern => {
        name := pattern.text
        kind := .property
        access := (access.map Access.ofWord).getD .everywhere
        isStatic := false
        declaredType := declaredType? parameter }
  else none

def parameterProperties (constructor : Node) : List Member :=
  match constructor.child? .parameters with
  | some parameters => parameters.children.filterMap parameterProperty?
  | none => []

def methodMember (method name : Node) : Member :=
  let head : Member := {
    name := name.text
    kind := .method
    access := accessOf method name
    isStatic := method.hasKeyword "static" }
  if method.hasKeyword "get" || method.hasKeyword "set" then
    { head with kind := .accessor, declaredType := (method.child? .returnType).map typeText }
  else { head with signature := some (signatureText method) }

def fieldMember (field name : Node) : Member where
  name := name.text
  kind := .property
  access := accessOf field name
  isStatic := field.hasKeyword "static"
  declaredType := declaredType? field

/-- What a part of a class body adds to the members. -/
inductive Contribution where
  | member (member : Member)
  /-- What a constructor declares in its parameters. -/
  | parameters (members : List Member)
  | nothing

def isMethod (node : Node) : Bool :=
  node.kind = .methodDefinition || node.kind = .methodSignature ||
    node.kind = .abstractMethodSignature

def contribution (node : Node) : Contribution :=
  match node.child? .name with
  | none => .nothing
  | some name =>
    if isMethod node then
      if name.text = "constructor" then .parameters (parameterProperties node)
      else .member (methodMember node name)
    else if node.kind = .fieldDefinition then .member (fieldMember node name)
    else .nothing

/-- A static and an instance member of one name are two members. -/
def isSameMember (a b : Member) : Bool :=
  a.name = b.name && a.isStatic = b.isStatic

/-- The first declaration of a member stays. -/
def addMember (members : List Member) (member : Member) : List Member :=
  if members.any (isSameMember member) then members else members ++ [member]

def contribute (members : List Member) : Contribution → List Member
  | .member member => addMember members member
  | .parameters added => members ++ added
  | .nothing => members

def classMembers (body : Node) : List Member :=
  (body.children.map contribution).foldl contribute []

/-! ### Interfaces -/

def interfaceMember? (node : Node) : Option Member :=
  (node.child? .name).bind fun name =>
    if node.kind = .propertySignature then
      some ⟨name.text, .property, .everywhere, false, declaredType? node, none⟩
    else if node.kind = .methodSignature then
      some ⟨name.text, .method, .everywhere, false, none, some (signatureText node)⟩
    else none

def interfaceMembers (body : Node) : List Member :=
  (body.children.filterMap interfaceMember?).foldl addMember []

/-! ### The whole tree -/

def isClass (node : Node) : Bool :=
  node.kind = .classDeclaration || node.kind = .abstractClassDeclaration ||
    node.kind = .classExpression

def membersOf (read : Node → List Member) (declaration : Node) : List Member :=
  ((declaration.child? .body).map read).getD []

/-- A declaration without a name is passed over. -/
def definition? (node : Node) : Option TypeDefinition :=
  (node.child? .name).bind fun name =>
    if isClass node then some ⟨name.text, .classType, membersOf classMembers node⟩
    else if node.kind = .interfaceDeclaration then
      some ⟨name.text, .interfaceType, membersOf interfaceMembers node⟩
    else none

def ofTree (tree : Node) : Outline :=
  ⟨tree.visit.filterMap definition?⟩

end SeedNavigator.Outline
