import SeedNavigator.Script.Sketch

/-! How far a type reaches, and the signatures that types occur in. Types stay unstructured. Here and
in the modules for expressions and statements, `size` is a number that the items do not exceed; it
bounds the steps of a reading, each of which takes an item. -/
namespace SeedNavigator.Script

open Sketch

/-- Items up to the `>` that closes the `<` in front, with what follows; `depth` counts the `<` that
are open. A semicolon never stands between them. -/
def anglesFrom : (depth : Nat) → (seen : Items) → Items → Option (Items × Items)
  | _, _, [] => none
  | depth, seen, item :: rest =>
    if item.isMark "<" then anglesFrom (depth + 1) (item :: seen) rest
    else if item.isMark ">" then
      if depth ≤ 1 then some ((item :: seen).reverse, rest)
      else anglesFrom (depth - 1) (item :: seen) rest
    else if item.isMark ";" then none
    else anglesFrom depth (item :: seen) rest

/-- A list of type parameters or type arguments, if the items start with one. -/
def takeAngles (items : Items) : Items × Items :=
  match items with
  | item :: _ => if item.isMark "<" then (anglesFrom 0 [] items).getD ([], items) else ([], items)
  | [] => ([], [])

/-! ### Types -/

/-- Words that modify the type after them. -/
def typeOperators : List String :=
  ["keyof", "typeof", "readonly", "unique", "infer", "asserts", "new", "abstract"]

/-- What a type has come to: whether an operand is still to come, whether the last operand can be
the parameters of a function type, and the conditions that are open. -/
structure TypeProgress where
  operandDue : Bool := true
  parenthesized : Bool := false
  imported : Bool := false
  extending : Nat := 0
  choosing : Nat := 0

def startsType (item : Item) : Bool :=
  match item.kind? with
  | some .mark => item.text = "<" || item.text = "-"
  | some .regex | some .templateText => false
  | _ => true

/-- An operand, or something that may stand before one. -/
def TypeProgress.operand (p : TypeProgress) (item : Item) (rest : Items) : Option TypeProgress :=
  match item.kind? with
  | none => some { p with operandDue := false, parenthesized := item.text = "(", imported := false }
  | some .word =>
    let operator := typeOperators.contains item.text &&
      match rest with
      | next :: _ => !next.breaksLine && startsType next &&
          !(next.isTheWord "is" || next.isTheWord "extends")
      | [] => false
    if operator then some p
    else
      some { p with operandDue := false, parenthesized := false, imported := item.text = "import" }
  | some .string | some .number =>
    some { p with operandDue := false, parenthesized := false, imported := false }
  | some .mark =>
    if ["|", "&", "-"].contains item.text then some p else none
  | _ => none

def TypeProgress.operator (p : TypeProgress) (item : Item) : Option TypeProgress :=
  let more := { p with operandDue := true, parenthesized := false, imported := false }
  if startsAfresh true item then none
  else
    match item.kind? with
    | none =>
      if item.text = "[" then some { p with parenthesized := false, imported := false }
      else if item.text = "(" && p.imported then
        some { p with parenthesized := false, imported := false }
      else none
    | some .word =>
      if item.text = "is" then some more
      else if item.text = "extends" then some { more with extending := p.extending + 1 }
      else none
    | some .mark =>
      if ["|", "&", "."].contains item.text then some more
      else if item.text = "=>" then if p.parenthesized then some more else none
      else if item.text = "?" then
        if 0 < p.extending then
          some { more with extending := p.extending - 1, choosing := p.choosing + 1 }
        else none
      else if item.text = ":" then
        if 0 < p.choosing then some { more with choosing := p.choosing - 1 } else none
      else none
    | _ => none

def typeFrom : (fuel : Nat) → TypeProgress → (seen : Items) → Items → Items × Items
  | 0, _, seen, items => (seen.reverse, items)
  | _, _, seen, [] => (seen.reverse, [])
  | fuel + 1, p, seen, item :: rest =>
    if item.isMark "<" && (p.operandDue || !startsAfresh true item) then
      match anglesFrom 0 [] (item :: rest) with
      | some (angles, rest) =>
        typeFrom fuel { p with parenthesized := false } (angles.reverse ++ seen) rest
      | none => (seen.reverse, item :: rest)
    else
      match if p.operandDue then p.operand item rest else p.operator item with
      | some p => typeFrom fuel p (item :: seen) rest
      | none => (seen.reverse, item :: rest)

/-- The longest type at the front of the items. -/
def takeType (size : Nat) (items : Items) : Items × Items :=
  typeFrom (size + 1) {} [] items

/-! ### Type arguments in expressions -/

/-- Only these items can stand between the angle brackets of a type argument list. -/
def fitsTypeArgument (item : Item) : Bool :=
  match item.kind? with
  | none => true
  | some .word | some .string | some .number => true
  | some .mark => [".", ",", "|", "&", "=>", "?", ":", "<", ">", "-"].contains item.text
  | _ => false

/-- What may follow a list of type arguments; before anything else `<` compares. -/
def fitsAfterTypeArguments : Items → Bool
  | [] => true
  | item :: _ =>
    match item.kind? with
    | none => item.text = "(" || item.text = "\x60" || item.text = "\x7b"
    | some .word => item.text = "implements" || item.breaksLine
    | some .mark => [",", ";", ".", "?.", ":", "=", "==", "===", "!=", "!==", "&&", "||", "??", "?",
        ">"].contains item.text
    | _ => false

def typeArguments? (items : Items) : Option (Items × Items) :=
  match anglesFrom 0 [] items with
  | some (angles, rest) =>
    if angles.all fitsTypeArgument && 3 ≤ angles.length && fitsAfterTypeArguments rest then
      some (angles, rest)
    else none
  | none => none

/-! ### Signatures -/

/-- A colon and a type, if the items start with a colon. -/
def typeClause (size : Nat) (role : Role) (items : Items) : List Part × Items :=
  match items with
  | colon :: rest =>
    if colon.isMark ":" then
      let (type, rest) := takeType size rest
      ([as role (.branch .typeClause (leafPart colon :: plainParts type))], rest)
    else ([], items)
  | [] => ([], [])

def parameterList (items : Items) : List Part × Items :=
  match items with
  | group :: rest =>
    if group.isGroup "(" then ([as .parameters (ofItem .parameters group)], rest) else ([], items)
  | [] => ([], [])

/-- Type parameters, parameters and the type that is returned. -/
def signature (size : Nat) (items : Items) : List Part × Items :=
  let (angles, items) := takeAngles items
  let (parameters, items) := parameterList items
  let (returned, items) := typeClause size .returnType items
  (plainParts angles ++ parameters ++ returned, items)

/-- The block of a function, if there is one. -/
def functionBody (items : Items) : List Part × Items :=
  match items with
  | group :: rest =>
    if group.isGroup "\x7b" then ([as .body (ofItem .statements group)], rest) else ([], items)
  | [] => ([], [])

end SeedNavigator.Script
