import SeedNavigator.Script.Types

/-! Expressions, read by the strength of their operators. Operators that wait for the operand on their
right are kept in a list, innermost first, and take it as soon as a weaker operator follows. -/
namespace SeedNavigator.Script

open Sketch

/-- A construct that still lacks its last operand. -/
structure Awaiting where
  power : Nat
  kind : Kind := .plain
  parts : List Part
  role : Option Role := none
  /-- The first half of a conditional expression, which only a colon completes. -/
  condition : Bool := false

def Awaiting.close (w : Awaiting) (operand : Option Sketch) : Sketch :=
  match operand with
  | some sketch => .branch w.kind (w.parts ++ [(w.role, sketch)])
  | none => .branch w.kind w.parts

/-- An expression half read. Inside brackets a line break means nothing. -/
structure Climb where
  awaiting : List Awaiting := []
  current : Option Sketch := none
  bracketed : Bool

namespace Climb

def inCondition (c : Climb) : Bool :=
  c.awaiting.any (·.condition)

/-- Constructs of at least the given strength take the current operand. -/
def closeAwaiting (power : Nat) : List Awaiting → Option Sketch → List Awaiting × Option Sketch
  | [], operand => ([], operand)
  | w :: rest, operand =>
    if w.condition || w.power < power then (w :: rest, operand)
    else closeAwaiting power rest (some (w.close operand))

def closeAll : List Awaiting → Option Sketch → Option Sketch
  | [], operand => operand
  | w :: rest, operand => closeAll rest (some (w.close operand))

def finish (c : Climb) : Option Sketch :=
  closeAll c.awaiting c.current

def complete (c : Climb) (sketch : Sketch) : Climb :=
  { c with current := some sketch }

def await (c : Climb) (w : Awaiting) : Climb :=
  { c with awaiting := w :: c.awaiting, current := none }

/-- The current operand grows by what follows it. -/
def extend (c : Climb) (kind : Kind) (role : Option Role) (parts : List Part) : Climb :=
  match c.current with
  | some sketch => c.complete (.branch kind ((role, sketch) :: parts))
  | none => c

/-- A binary operator: what binds as strongly to the left is closed first. -/
def binary (c : Climb) (power : Nat) (marks : List Part) : Climb :=
  let (awaiting, operand) := closeAwaiting power c.awaiting c.current
  { c with awaiting := ⟨power, .plain, operand.toList.map bare ++ marks, none, false⟩ :: awaiting
           current := none }

/-- An assignment takes only the operand right before it. -/
def assign (c : Climb) (kind : Kind) (mark : Part) : Climb :=
  c.await ⟨2, kind, c.current.toList.map (as .left) ++ [mark], some .right, false⟩

def choose (c : Climb) (mark : Part) : Climb :=
  let (awaiting, operand) := closeAwaiting 4 c.awaiting c.current
  { c with awaiting := ⟨0, .plain, operand.toList.map bare ++ [mark], none, true⟩ :: awaiting
           current := none }

/-- The colon of a conditional expression. -/
def otherwise (c : Climb) (mark : Part) : Option Climb :=
  let (awaiting, operand) := closeAwaiting 1 c.awaiting c.current
  match awaiting with
  | w :: rest =>
    if w.condition then
      some { c with
        awaiting := ⟨3, .plain, w.parts ++ operand.toList.map bare ++ [mark], none, false⟩ :: rest
        current := none }
    else none
  | [] => none

end Climb

/-! ### Arrow functions -/

/-- Whether a colon follows before the expression can have ended. -/
def colonFollows : Items → Bool
  | [] => false
  | item :: rest =>
    if item.isMark ":" then true
    else if item.isMark "," || item.isMark ";" then false
    else colonFollows rest

/-- Parameters and arrow of an arrow function, if the items start with them. Where the colon could
also be that of a conditional expression, that expression must still find one. -/
def arrowHead? (size : Nat) (inCondition : Bool) (items : Items) : Option (List Part × Items) :=
  match items with
  | [] => none
  | [_] => none
  | item :: arrow :: rest =>
    if item.isWord && arrow.isMark "=>" then some ([leafPart item, leafPart arrow], rest)
    else
      let (angles, items) := takeAngles items
      match items with
      | group :: arrow :: rest =>
        if !group.isGroup "(" then none
        else
          let head := plainParts angles ++ [as .parameters (ofItem .parameters group)]
          if arrow.isMark "=>" then some (head ++ [leafPart arrow], rest)
          else if arrow.isMark ":" then
            let (type, rest) := takeType size rest
            match rest with
            | second :: rest =>
              if second.isMark "=>" && !type.isEmpty && (!inCondition || colonFollows rest) then
                some (head ++ [as .returnType (.branch .typeClause
                  (leafPart arrow :: plainParts type)), leafPart second], rest)
              else none
            | [] => none
          else none
      | _ => none

def asyncArrowHead? (size : Nat) (inCondition : Bool) (items : Items) :
    Option (List Part × Items) :=
  match items with
  | first :: next :: rest =>
    if first.isTheWord "async" && !next.breaksLine then
      (arrowHead? size inCondition (next :: rest)).map fun (head, rest) =>
        (keywordPart first :: head, rest)
    else none
  | _ => none

/-! ### Functions and classes -/

def wordPart (role : Role) (items : Items) : List Part × Items :=
  match items with
  | item :: rest => if item.isWord then ([as role (ofItem .plain item)], rest) else ([], items)
  | [] => ([], [])

def markPart (mark : String) (items : Items) : List Part × Items :=
  match items with
  | item :: rest => if item.isMark mark then ([leafPart item], rest) else ([], items)
  | [] => ([], [])

/-- What follows the word `function`. -/
def functionRest (size : Nat) (items : Items) : List Part × Items :=
  let (star, items) := markPart "*" items
  let (name, items) := wordPart .name items
  let (signature, items) := signature size items
  let (body, items) := functionBody items
  (star ++ name ++ signature ++ body, items)

/-- Items before the first brace outside of angle brackets, if one comes before a semicolon. -/
def beforeBrace : (depth : Nat) → (seen : Items) → Items → Option (Items × Items)
  | _, _, [] => none
  | depth, seen, item :: rest =>
    if item.isGroup "\x7b" && depth = 0 then some (seen.reverse, item :: rest)
    else if item.isMark ";" then none
    else
      beforeBrace
        (if item.isMark "<" then depth + 1 else if item.isMark ">" then depth - 1 else depth)
        (item :: seen) rest

/-- A class that is itself extended brings its own body along. -/
def heritage (items : Items) : Option (Items × Items) :=
  match items with
  | extending :: base :: rest =>
    if extending.isTheWord "extends" && base.isTheWord "class" then
      match beforeBrace 0 [base, extending] rest with
      | some (before, body :: rest) => beforeBrace 0 (before ++ [body]).reverse rest
      | _ => none
    else beforeBrace 0 [] items
  | _ => beforeBrace 0 [] items

def heritageParts (items : Items) : List Part :=
  let isImplements := fun (item : Item) => item.isTheWord "implements"
  let extended := items.takeWhile fun item => !isImplements item
  let implemented := items.dropWhile fun item => !isImplements item
  let first :=
    match extended with
    | item :: base => if item.isTheWord "extends" then [keywordPart item, bare (run .list base)]
      else plainParts extended
    | [] => []
  first ++ plainParts implemented

/-- What follows the word `class` or `interface`: name, type parameters, heritage and body. -/
def definitionRest (mode : Mode) (items : Items) : List Part × Items :=
  let (name, items) :=
    match items with
    | item :: _ =>
      if item.isTheWord "extends" || item.isTheWord "implements" then ([], items)
      else wordPart .name items
    | [] => ([], [])
  let (angles, items) := takeAngles items
  match heritage items with
  | some (before, body :: rest) =>
    let head := if mode = .classBody then heritageParts before else plainParts before
    (name ++ plainParts angles ++ head ++ [as .body (ofItem mode body)], rest)
  | _ => (name ++ plainParts angles, items)

/-- Names joined by points. -/
def dottedNames (seen : Items) : Items → Items × Items
  | [] => (seen.reverse, [])
  | [item] => (seen.reverse, [item])
  | point :: name :: rest =>
    if point.isMark "." && (name.isWord || name.kind? = some .privateWord) then
      dottedNames (name :: point :: seen) rest
    else (seen.reverse, point :: name :: rest)

/-- What follows the `@` of a decorator: a name with its arguments, or an expression in brackets. -/
def decoratorRest (items : Items) : List Part × Items :=
  match items with
  | [] => ([], [])
  | first :: rest =>
    if first.isGroup "(" then ([bare (ofItem .list first)], rest)
    else if first.isWord then
      let (names, rest) := dottedNames [first] rest
      let (angles, rest) := (typeArguments? rest).getD ([], rest)
      match rest with
      | group :: after =>
        if group.isGroup "(" then
          (plainParts names ++ plainParts angles ++ [bare (ofItem .list group)], after)
        else (plainParts names, angles ++ rest)
      | [] => (plainParts names, angles)
    else ([], items)

/-- Decorators at the front of the items. -/
def decorators : (size : Nat) → Items → List Part × Items
  | 0, items => ([], items)
  | _, [] => ([], [])
  | size + 1, item :: rest =>
    if item.isMark "@" then
      let (parts, rest) := decoratorRest rest
      let (more, rest) := decorators size rest
      (bare (.branch .plain (leafPart item :: parts)) :: more, rest)
    else ([], item :: rest)

/-! ### Operands -/

def unaryWords : List String := ["typeof", "void", "delete", "await", "new"]

def unaryMarks : List String := ["!", "~", "+", "-", "++", "--"]

/-- These words begin a statement or part of one, and no operand. -/
def statementWords : List String :=
  ["break", "case", "catch", "const", "continue", "debugger", "default", "do", "else", "enum",
    "export", "extends", "finally", "for", "if", "in", "instanceof", "return", "switch", "throw",
    "try", "var", "while", "with"]

def startsOperand (items : Items) : Bool :=
  match items with
  | [] => false
  | item :: _ =>
    match item.kind? with
    | some .word =>
      !(statementWords.contains item.text || ["of", "as", "satisfies"].contains item.text)
    | some .mark => unaryMarks.contains item.text || item.text = "<" || item.text = "@"
    | some .templateText => false
    | _ => true

/-! ### Braces -/

/-- The name of a member: a word, a private word, a literal, or an expression in brackets. -/
def memberName? (item : Item) : Option Sketch :=
  match item.kind? with
  | none => if item.text = "[" then some (ofItem .list item) else none
  | some .word | some .privateWord | some .string | some .number => some (ofItem .plain item)
  | _ => none

/-- A comma, a key and a colon. -/
def hasLaterKey : Items → Bool
  | comma :: key :: colon :: rest =>
    (comma.isMark "," && (memberName? key).isSome && colon.isMark ":") ||
      hasLaterKey (key :: colon :: rest)
  | _ => false

def neverInObject (item : Item) : Bool :=
  item.isMark ";" || ["let", "var", "const"].any item.isTheWord

/-- Braces where a statement or the body of an arrow function is due hold a block, unless what is in them
can only be read as the members of an object. -/
def isObject (items : Items) : Bool :=
  hasLaterKey items && !items.any neverInObject && !items.head?.any (·.isTheWord "case")

/-- An array or object before a single `=` is the target of an assignment, not a value. -/
def isTarget (rest : Items) : Bool :=
  match rest with
  | item :: _ => item.isMark "="
  | [] => false

/-- A group where an operand is due. -/
def groupOperand (opener : String) (item : Item) (rest : Items) : Sketch :=
  if opener = "[" then ofItem (if isTarget rest then .arrayPattern else .list) item
  else if opener = "\x7b" then ofItem (if isTarget rest then .objectPattern else .object) item
  else if opener = "\x60" then ofItem .template item
  else ofItem .list item

namespace Climb

def arrowBody (c : Climb) (head : List Part) (items : Items) : Climb × Items :=
  match items with
  | body :: rest =>
    if body.isGroup "\x7b" && !isObject body.items then
      (c.complete (.branch .plain (head ++ [as .body (ofItem .statements body)])), rest)
    else (c.await ⟨1, .plain, head, some .body, false⟩, items)
  | [] => (c.await ⟨1, .plain, head, some .body, false⟩, items)

def wordOperand (c : Climb) (size : Nat) (item : Item) (rest : Items) : Option (Climb × Items) :=
  let word := item.text
  if unaryWords.contains word && startsOperand rest then
    some (c.await ⟨15, .plain, [keywordPart item], none, false⟩, rest)
  else if word = "yield" then
    match rest with
    | next :: after =>
      if next.isMark "*" then
        some (c.await ⟨1, .plain, [keywordPart item, leafPart next], none, false⟩, after)
      else if startsOperand rest && !next.breaksLine then
        some (c.await ⟨1, .plain, [keywordPart item], none, false⟩, rest)
      else some (c.complete (ofItem .plain item), rest)
    | [] => some (c.complete (ofItem .plain item), [])
  else if word = "function" then
    let (parts, rest) := functionRest size rest
    some (c.complete (.branch .plain (keywordPart item :: parts)), rest)
  else if word = "class" then
    let (parts, rest) := definitionRest .classBody rest
    some (c.complete (.branch .classExpression (keywordPart item :: parts)), rest)
  else if statementWords.contains word then none
  else
    match rest with
    | next :: after =>
      if word = "async" && next.isTheWord "function" && !next.breaksLine then
        let (parts, rest) := functionRest size after
        some (c.complete (.branch .plain (keywordPart item :: keywordPart next :: parts)), rest)
      else some (c.complete (ofItem .plain item), rest)
    | [] => some (c.complete (ofItem .plain item), [])

def markOperand (c : Climb) (size : Nat) (item : Item) (rest : Items) : Option (Climb × Items) :=
  if unaryMarks.contains item.text then
    some (c.await ⟨15, .plain, [leafPart item], none, false⟩, rest)
  else if item.text = "..." then
    some (c.await ⟨1, .plain, [leafPart item], none, false⟩, rest)
  else if item.text = "<" then
    match anglesFrom 0 [] (item :: rest) with
    | some (angles, rest) =>
      some (c.await ⟨15, .plain, [bare (.branch .plain (plainParts angles))], none, false⟩, rest)
    | none => none
  else if item.text = "@" then
    let (parts, rest) := decorators (size + 1) (item :: rest)
    some (c.await ⟨15, .plain, parts, none, false⟩, rest)
  else none

/-- One step where an operand is due; `none` where no operand follows. -/
def operandStep (c : Climb) (size : Nat) (items : Items) : Option (Climb × Items) :=
  match items with
  | [] => none
  | item :: rest =>
    match (asyncArrowHead? size c.inCondition items).or (arrowHead? size c.inCondition items) with
    | some (head, rest) => some (c.arrowBody head rest)
    | none =>
      match item.kind? with
      | none => some (c.complete (groupOperand item.text item rest), rest)
      | some .word => c.wordOperand size item rest
      | some .mark => c.markOperand size item rest
      | some .templateText => none
      | _ => some (c.complete (ofItem .plain item), rest)

/-! ### Operators -/

def binaryPower? (mark : String) : Option Nat :=
  if mark = "||" ∨ mark = "??" then some 5
  else if mark = "&&" then some 6
  else if mark = "|" then some 7
  else if mark = "^" then some 8
  else if mark = "&" then some 9
  else if ["==", "!=", "===", "!=="].contains mark then some 10
  else if mark = "<" ∨ mark = "<=" then some 11
  else if mark = "<<" then some 12
  else if mark = "+" ∨ mark = "-" then some 13
  else if mark = "*" ∨ mark = "/" ∨ mark = "%" then some 14
  else if mark = "**" then some 16
  else none

def updateMarks : List String :=
  ["+=", "-=", "*=", "/=", "%=", "**=", "<<=", "&=", "^=", "|=", "&&=", "||=", "??="]

/-- The marks that belong to the operator a `>` begins. -/
def greaterMarks (seen : Items) : Items → Items × Items
  | [] => (seen.reverse, [])
  | item :: rest =>
    if item.first.gap = "" && (item.isMark ">" || item.isMark "=") then
      greaterMarks (item :: seen) rest
    else (seen.reverse, item :: rest)

def greater (c : Climb) (item : Item) (rest : Items) : Climb × Items :=
  let (marks, rest) := greaterMarks [item] rest
  (c.binary (if (marks.getD 1 item).isMark ">" && 2 ≤ marks.length then 12 else 11)
    (plainParts marks), rest)

def access (c : Climb) (item : Item) (rest : Items) : Option (Climb × Items) :=
  match rest with
  | name :: after =>
    if name.isWord || name.kind? = some .privateWord then
      some (c.extend .memberAccess (some .object)
        [leafPart item, as .property (ofItem .plain name)], after)
    else if item.text = "?." && (name.isGroup "(" || name.isGroup "[") then
      some (c.extend .plain none [leafPart item], rest)
    else none
  | [] => none

def markOperator (c : Climb) (item : Item) (rest : Items) : Option (Climb × Items) :=
  let mark := item.text
  if mark = "." ∨ mark = "?." then c.access item rest
  else if mark = "=" then some (c.assign .assignment (leafPart item), rest)
  else if updateMarks.contains mark then some (c.assign .plain (leafPart item), rest)
  else if mark = "?" then some (c.choose (leafPart item), rest)
  else if mark = ":" then (c.otherwise (leafPart item)).map (·, rest)
  else if mark = ">" then some (c.greater item rest)
  else if (mark = "++" ∨ mark = "--" ∨ mark = "!") && !item.breaksLine then
    some (c.extend .plain none [leafPart item], rest)
  else if mark = "<" then
    match typeArguments? (item :: rest) with
    | some (angles, rest) => some (c.extend .plain none (plainParts angles), rest)
    | none => some (c.binary 11 [leafPart item], rest)
  else (binaryPower? mark).map fun power => (c.binary power [leafPart item], rest)

def wordOperator (c : Climb) (size : Nat) (item : Item) (rest : Items) : Option (Climb × Items) :=
  if item.text = "in" ∨ item.text = "instanceof" then some (c.binary 11 [keywordPart item], rest)
  else if (item.text = "as" ∨ item.text = "satisfies") && (c.bracketed || !item.breaksLine) then
    let (type, rest) := takeType size rest
    let (awaiting, operand) := closeAwaiting 11 c.awaiting c.current
    let parts := operand.toList.map bare ++ keywordPart item :: plainParts type
    some ({ c with awaiting, current := some (.branch .plain parts) }, rest)
  else none

/-- One step after an operand; `none` where the expression ends. -/
def operatorStep (c : Climb) (size : Nat) (items : Items) : Option (Climb × Items) :=
  match items with
  | [] => none
  | item :: rest =>
    if !c.bracketed && startsAfresh false item then none
    else
      match item.kind? with
      | none =>
        if item.text = "(" || item.text = "[" then
          some (c.extend .plain none [bare (ofItem .list item)], rest)
        else if item.text = "\x60" then
          some (c.extend .plain none [bare (ofItem .template item)], rest)
        else none
      | some .word => c.wordOperator size item rest
      | some .mark => c.markOperator item rest
      | _ => none

def climb (size : Nat) : (fuel : Nat) → Climb → Items → Option Sketch × Items
  | 0, c, items => (c.finish, items)
  | fuel + 1, c, items =>
    match if c.current.isNone then c.operandStep size items else c.operatorStep size items with
    | some (c, items) => climb size fuel c items
    | none => (c.finish, items)

end Climb

/-- The expression at the front of the items, up to a comma. -/
def expression (size : Nat) (bracketed : Bool) (items : Items) : Option Sketch × Items :=
  Climb.climb size (size + 1) { bracketed } items

/-- An equals sign and the value after it, if the items start with one. -/
def initializer (size : Nat) (bracketed : Bool) (items : Items) : List Part × Items :=
  match items with
  | mark :: rest =>
    if mark.isMark "=" then
      let (value, rest) := expression size bracketed rest
      (leafPart mark :: value.toList.map (as .value), rest)
    else ([], items)
  | [] => ([], [])

end SeedNavigator.Script
