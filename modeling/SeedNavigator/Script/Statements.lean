import SeedNavigator.Script.Members

/-! Statements. The head of a statement and the statements it governs stand side by side in the tree, so
that a chain of them, however long, is read in a row. -/
namespace SeedNavigator.Script

open Sketch

/-! ### Expressions and declarations -/

/-- Expressions between commas, outside of brackets. -/
def sequence (size : Nat) : (fuel : Nat) → Items → List Part × Items
  | 0, items => ([], items)
  | fuel + 1, items =>
    match expression size false items with
    | (none, _) => ([], items)
    | (some sketch, comma :: rest) =>
      if comma.isMark "," then
        let (more, rest) := sequence size fuel rest
        (bare sketch :: leafPart comma :: more, rest)
      else ([bare sketch], comma :: rest)
    | (some sketch, []) => ([bare sketch], [])

/-- An item that begins no expression stands alone. -/
def expressionStatement (size : Nat) (items : Items) : List Part × Items :=
  match sequence size (size + 1) items, items with
  | ([], _), item :: rest => ([leafPart item], rest)
  | read, _ => read

/-- Variables between commas, each with its type and its value. -/
def declarators (size : Nat) : (fuel : Nat) → Items → List Part × Items
  | 0, items => ([], items)
  | _, [] => ([], [])
  | fuel + 1, target :: rest =>
    let (mark, rest) := markPart "!" rest
    let (type, rest) := typeClause size .declaredType rest
    let (value, rest) := initializer size false rest
    let declared := bare (.branch .plain (as .name (patternSketch target) :: mark ++ type ++ value))
    match rest with
    | comma :: after =>
      if comma.isMark "," then
        let (more, rest) := declarators size fuel after
        (declared :: leafPart comma :: more, rest)
      else ([declared], rest)
    | [] => ([declared], [])

/-- Variables, and what a loop lets them run over. -/
def variableList (size : Nat) (items : Items) : List Part × Items :=
  let (declared, rest) := declarators size (size + 1) items
  match rest with
  | word :: after =>
    if word.isTheWord "of" || word.isTheWord "in" then
      let (range, rest) := sequence size (size + 1) after
      (declared ++ keywordPart word :: range, rest)
    else (declared, rest)
  | [] => (declared, [])

def startsTarget (items : Items) : Bool :=
  match items with
  | item :: _ => item.isWord || item.isGroup "[" || item.isGroup "\x7b"
  | [] => false

/-- A class from its keyword on, with the decorators before it. -/
def classDeclaration? (before : List Part) (items : Items) : Option (List Part × Items) :=
  match items with
  | first :: rest =>
    if first.isTheWord "class" then
      let (parts, rest) := definitionRest .classBody rest
      some ([bare (.branch .classDeclaration (before ++ keywordPart first :: parts))], rest)
    else
      match rest with
      | second :: rest =>
        if first.isTheWord "abstract" && second.isTheWord "class" then
          let (parts, rest) := definitionRest .classBody rest
          some ([bare (.branch .abstractClassDeclaration
            (before ++ keywordPart first :: keywordPart second :: parts))], rest)
        else none
      | [] => none
  | [] => none

/-- Decorators belong to the class right after them. -/
def decoratedStatement (size : Nat) (items : Items) : List Part × Items :=
  let (before, rest) := decorators (size + 1) items
  (classDeclaration? before rest).getD (before, rest)

def enumDeclaration? (items : Items) : Option (List Part × Items) :=
  match items with
  | name :: body :: rest =>
    if name.isWord && body.isGroup "\x7b" then
      some ([as .name (ofItem .plain name), as .body (ofItem .enumBody body)], rest)
    else none
  | _ => none

/-- A namespace has a dotted name, a module of its own a string. -/
def namespaceDeclaration? (items : Items) : Option (List Part × Items) :=
  match items with
  | name :: rest =>
    if (name.isWord || name.kind? = some .string) && !name.breaksLine then
      let (names, rest) := dottedNames [name] rest
      let (body, rest) := functionBody rest
      some (plainParts names ++ body, rest)
    else none
  | [] => none

def typeAlias? (size : Nat) (items : Items) : Option (List Part × Items) :=
  match items with
  | name :: rest =>
    let (angles, rest) := takeAngles rest
    match rest with
    | mark :: rest =>
      if name.isWord && !name.breaksLine && mark.isMark "=" then
        let (type, rest) := takeType size rest
        some (plainParts (name :: angles ++ mark :: type), rest)
      else none
    | [] => none
  | [] => none

/-! ### Imports and exports -/

/-- What is imported, up to the string that names the source or to an equals sign. -/
def importClause (seen : Items) : Items → Items × Items
  | [] => (seen.reverse, [])
  | item :: rest =>
    if item.isMark ";" then (seen.reverse, item :: rest)
    else if item.kind? = some .string || item.isMark "=" then ((item :: seen).reverse, rest)
    else importClause (item :: seen) rest

/-- `import` before a parenthesis or a point is an operand. -/
def importStatement? (items : Items) : Option (List Part × Items) :=
  match items with
  | next :: _ =>
    if next.isGroup "(" || next.isMark "." then none
    else
      let (clause, rest) := importClause [] items
      some (plainParts clause, rest)
  | [] => none

/-- What is exported by default, or as a whole, is a value; braces right after `export` hold names. -/
def exportRest (size : Nat) (items : Items) : List Part × Items :=
  match items with
  | [] => ([], [])
  | next :: rest =>
    if next.isGroup "\x7b" then ([leafPart next], rest)
    else if next.isMark "=" then
      let (value, rest) := sequence size (size + 1) rest
      (leafPart next :: value, rest)
    else
      match rest with
      | braces :: after =>
        if !braces.isGroup "\x7b" then ([], items)
        else if next.isTheWord "default" then
          let (value, rest) := sequence size (size + 1) rest
          (keywordPart next :: value, rest)
        else if next.isTheWord "type" then ([leafPart next, leafPart braces], after)
        else ([], items)
      | [] => ([], items)

/-! ### Statements -/

/-- A keyword with its condition. -/
def conditionRest (mode : Mode) (items : Items) : List Part × Items :=
  match items with
  | group :: rest =>
    if group.isGroup "(" then ([bare (ofItem mode group)], rest) else ([], items)
  | [] => ([], [])

/-- The head of a loop may say `await` before its parentheses. -/
def loopRest (items : Items) : List Part × Items :=
  match items with
  | next :: rest =>
    if next.isTheWord "await" then
      let (condition, rest) := conditionRest .statements rest
      (keywordPart next :: condition, rest)
    else conditionRest .statements items
  | [] => ([], [])

/-- A value after a keyword, on the same line. -/
def operandRest (size : Nat) (items : Items) : List Part × Items :=
  match items with
  | next :: _ => if next.breaksLine then ([], items) else sequence size (size + 1) items
  | [] => ([], [])

def functionDeclaration? (size : Nat) (items : Items) : Option (List Part × Items) :=
  match items with
  | next :: rest =>
    if next.isTheWord "function" && !next.breaksLine then
      let (parts, rest) := functionRest size rest
      some (keywordPart next :: parts, rest)
    else none
  | [] => none

/-- What follows the first word of a statement, if that word is a keyword here. -/
def afterKeyword? (size : Nat) (word : String) (items : Items) : Option (List Part × Items) :=
  match word with
  | "function" => some (functionRest size items)
  | "async" => functionDeclaration? size items
  | "var" => some (variableList size items)
  | "let" => if startsTarget items then some (variableList size items) else none
  | "const" =>
    match items with
    | next :: rest =>
      if next.isTheWord "enum" then
        (enumDeclaration? rest).map fun (parts, rest) => (keywordPart next :: parts, rest)
      else some (variableList size items)
    | [] => some ([], [])
  | "enum" => enumDeclaration? items
  | "namespace" | "module" => namespaceDeclaration? items
  | "type" => typeAlias? size items
  | "import" => importStatement? items
  | "export" => some (exportRest size items)
  | "if" | "while" | "with" | "switch" | "catch" => some (conditionRest .list items)
  | "for" => some (loopRest items)
  | "return" | "throw" | "case" => some (operandRest size items)
  | "else" | "do" | "try" | "finally" | "default" | "break" | "continue" | "debugger" =>
    some ([], items)
  | "declare" =>
    match items with
    | next :: _ => if next.isWord && !next.breaksLine then some ([], items) else none
    | [] => none
  | _ => none

/-- An interface is the only declaration besides classes that has a node of its own. -/
def interfaceDeclaration? (items : Items) : Option (List Part × Items) :=
  match items with
  | first :: next :: rest =>
    if first.isTheWord "interface" && next.isWord then
      let (parts, rest) := definitionRest .interfaceBody (next :: rest)
      some ([bare (.branch .interfaceDeclaration (keywordPart first :: parts))], rest)
    else none
  | _ => none

def labelled? (items : Items) : Option (List Part × Items) :=
  match items with
  | label :: colon :: rest =>
    if label.isWord && colon.isMark ":" && label.text ≠ "default" then
      some ([leafPart label, leafPart colon], rest)
    else none
  | _ => none

def wordStatement (size : Nat) (item : Item) (rest : Items) : List Part × Items :=
  let items := item :: rest
  match (classDeclaration? [] items).or ((interfaceDeclaration? items).or (labelled? items)) with
  | some read => read
  | none =>
    match afterKeyword? size item.text rest with
    | some (parts, rest) => (keywordPart item :: parts, rest)
    | none => expressionStatement size items

def statement (size : Nat) (items : Items) : List Part × Items :=
  match items with
  | [] => ([], [])
  | item :: rest =>
    if item.isGroup "\x7b" && !isObject item.items then ([bare (ofItem .statements item)], rest)
    else if item.isMark ";" then ([leafPart item], rest)
    else if item.isMark "@" then decoratedStatement size items
    else if item.isWord then wordStatement size item rest
    else expressionStatement size items

def statementsOf (size : Nat) (items : Items) : List Part :=
  repeatedly (statement size) size items []

end SeedNavigator.Script
