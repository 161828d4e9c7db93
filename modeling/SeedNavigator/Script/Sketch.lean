import SeedNavigator.Script.Bracketed
import SeedNavigator.Script.Tree

/-! Syntax trees in the making. A sketch is worked out on one level of brackets; a group further in is
only marked with the way its content is to be read. Nesting therefore never costs stack. -/
namespace SeedNavigator.Script

abbrev Items := List Item

/-- How the content of a group, or a run of items, is read. -/
inductive Mode where
  | statements
  /-- Expressions between commas. -/
  | list
  | object
  | objectPattern
  | arrayPattern
  | classBody
  | interfaceBody
  | enumBody
  | parameters
  | template
  /-- Types, and whatever else holds nothing of interest. -/
  | plain
  deriving DecidableEq, Repr

def Mode.kind : Mode → Kind
  | .object => .object
  | .classBody => .classBody
  | .interfaceBody => .interfaceBody
  | .parameters => .parameters
  | .template => .template
  | _ => .plain

inductive Sketch where
  | leaf (kind : Kind) (gap text : String)
  | branch (kind : Kind) (parts : List (Option Role × Sketch))
  | later (mode : Mode) (opener : Option Token) (items : Items) (closer : Option Token)

abbrev Part := Option Role × Sketch

def leafKind : TokenKind → Kind
  | .word => .word
  | .privateWord => .privateWord
  | .string => .string
  | .number => .number
  | .regex => .regex
  | .templateText => .template
  | .mark => .mark

namespace Sketch

def ofToken (kind : Kind) (token : Token) : Sketch :=
  .leaf kind token.gap token.text

/-- A token, or a group that is read in the given mode. -/
def ofItem (mode : Mode) : Item → Sketch
  | .single token => ofToken (leafKind token.kind) token
  | .group opener items closer => .later mode (some opener) items closer

def run (mode : Mode) (items : Items) : Sketch :=
  .later mode none items none

def bare (sketch : Sketch) : Part := (none, sketch)

def as (role : Role) (sketch : Sketch) : Part := (some role, sketch)

end Sketch

open Sketch

/-- The item as it stands. -/
def leafPart (item : Item) : Part :=
  bare (ofItem .plain item)

def keywordPart (item : Item) : Part :=
  bare (ofToken .keyword item.first)

def plainParts (items : Items) : List Part :=
  items.map leafPart

/-! ### Lines -/

/-- Whether an item on a new line carries on what the line before has begun. `inType` says that it
stands after a type, where brackets never carry on. -/
def carriesOn (inType : Bool) (item : Item) : Bool :=
  if item.isGroup "(" || item.isGroup "[" then !inType
  else if item.isGroup "\x60" then true
  else
    match item.kind? with
    | some .mark =>
      match item.text.toList with
      | '+' :: rest => rest.head? ≠ some '+'
      | '-' :: rest => rest.head? ≠ some '-'
      | '!' :: rest => rest.head? = some '='
      | c :: _ => [',', '.', ';', '*', '%', '>', '<', '=', '?', '^', '|', '&', '/', ':'].contains c
      | [] => false
    | some .word => item.text = "in" || item.text = "instanceof"
    | _ => false

/-- The item begins a line and nothing that went on before. -/
def startsAfresh (inType : Bool) (item : Item) : Bool :=
  item.breaksLine && !carriesOn inType item

end SeedNavigator.Script
