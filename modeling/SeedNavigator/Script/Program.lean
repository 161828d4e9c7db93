import SeedNavigator.Script.Statements

/-! From a source to its tree. Sketches are worked out one level of brackets at a time, with the
branches that are not complete yet in a list, so that a tree may be as deep as its source. -/
namespace SeedNavigator.Script

open Sketch

/-- The content of a group, read in its mode. -/
def Mode.parts (mode : Mode) (items : Items) : List Part :=
  let size := items.length
  match mode with
  | .statements => statementsOf size items
  | .list => listElements size items
  | .object => objectMembers size items
  | .objectPattern => objectPatternMembers size items
  | .arrayPattern => patternElements size items
  | .classBody => classMembers size items
  | .interfaceBody => interfaceMembers size items
  | .enumBody => enumMembers size items
  | .parameters => parametersOf size items
  | .template => templateParts items
  | .plain => plainParts items

def bracketPart (bracket : Token) : Part :=
  bare (ofToken .mark bracket)

/-- A run of items without brackets has no kind of its own. -/
def groupKind (mode : Mode) (opener : Option Token) : Kind :=
  if opener.isSome then mode.kind else .plain

def groupParts (mode : Mode) (opener : Option Token) (items : Items) (closer : Option Token) :
    List Part :=
  opener.toList.map bracketPart ++ mode.parts items ++ closer.toList.map bracketPart

/-- A branch that is being filled. `grown` has its first children in reverse. -/
structure Growing where
  role : Option Role
  kind : Kind
  grown : List (Option Role × Node)
  todo : List Part

namespace Growing

def node (g : Growing) : Node :=
  .branch g.kind g.grown.reverse

def take (g : Growing) (role : Option Role) (node : Node) : Growing :=
  { g with grown := (role, node) :: g.grown }

end Growing

/-- Branches that are left incomplete keep what they have. -/
def closeBranches : Growing → List Growing → Node
  | inner, [] => inner.node
  | inner, outer :: rest => closeBranches (outer.take inner.role inner.node) rest

/-- Grows the innermost branch; each step takes a part or ends a branch. -/
def grow : (fuel : Nat) → Growing → List Growing → Node
  | 0, inner, outer => closeBranches inner outer
  | fuel + 1, inner, outer =>
    match inner.todo with
    | [] =>
      match outer with
      | [] => inner.node
      | next :: rest => grow fuel (next.take inner.role inner.node) rest
    | (role, .leaf kind gap text) :: todo =>
      grow fuel ({ inner with todo }.take role (.leaf kind gap text)) outer
    | (role, .branch kind parts) :: todo =>
      grow fuel ⟨role, kind, [], parts⟩ ({ inner with todo } :: outer)
    | (role, .later mode opener items closer) :: todo =>
      grow fuel ⟨role, groupKind mode opener, [], groupParts mode opener items closer⟩
        ({ inner with todo } :: outer)

/-- More steps than a source of the given length has tokens and branches around them. -/
def growthSteps (length : Nat) : Nat :=
  32 * (length + 2)

/-- What gives the tree of a source, or says why there is none. -/
abbrev Parser := String → Except String Node

/-- The tree of a whole source. There is one for any text; where it makes no sense, items stand alone. -/
def program (source : String) : Node :=
  let items := bracketed (tokens source)
  grow (growthSteps source.length) ⟨none, .program, [], Mode.statements.parts items⟩ []

def parser : Parser :=
  fun source => .ok (program source)

end SeedNavigator.Script
