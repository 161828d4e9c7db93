import SeedNavigator.Script.Expressions

/-! What stands between braces and parentheses: the members of classes, interfaces and objects,
parameters, and the patterns that take values apart. -/
namespace SeedNavigator.Script

open Sketch

/-! ### Modifiers -/

def accessWords : List String := ["public", "protected", "private"]

def modifierWords : List String :=
  ["static", "abstract", "override", "readonly", "declare", "async", "accessor", "get", "set"]

def isModifierWord (item : Item) : Bool :=
  item.isWord && (accessWords.contains item.text || modifierWords.contains item.text)

def modifierPart (item : Item) : Part :=
  bare (ofToken (if accessWords.contains item.text then .accessibility else .keyword) item.first)

/-- A word is a modifier if a name follows on the same line; else it is the name itself. -/
def nameFollows (bracketed : Bool) (rest : Items) : Bool :=
  match rest with
  | item :: _ => (item.isMark "*" || (memberName? item).isSome) && (bracketed || !item.breaksLine)
  | [] => false

def modifiers (bracketed : Bool) : Items → List Part × Items
  | [] => ([], [])
  | item :: rest =>
    if isModifierWord item && nameFollows bracketed rest then
      let (more, rest) := modifiers bracketed rest
      (modifierPart item :: more, rest)
    else if item.isMark "*" then ([leafPart item], rest)
    else ([], item :: rest)

/-- A name with a colon or the word `in` behind it in brackets declares what all members look like. -/
def isIndexSignature (item : Item) : Bool :=
  item.isGroup "[" &&
    match item.items with
    | name :: mark :: _ => name.isWord && (mark.isMark ":" || mark.isTheWord "in")
    | _ => false

def startsSignature (items : Items) : Bool :=
  match items with
  | item :: _ => item.isGroup "(" || item.isMark "<"
  | [] => false

def questionMark (items : Items) : List Part × Items :=
  match items with
  | item :: rest =>
    if item.isMark "?" || item.isMark "!" then ([leafPart item], rest) else ([], items)
  | [] => ([], [])

/-! ### Classes -/

def isAbstract (parts : List Part) : Bool :=
  parts.any fun
    | (_, .leaf .keyword _ text) => text = "abstract"
    | _ => false

/-- What follows the name of a method. -/
def methodRest (size : Nat) (head : List Part) (items : Items) : Sketch × Items :=
  let (signature, items) := signature size items
  let (body, items) := functionBody items
  let kind :=
    if !body.isEmpty then .methodDefinition
    else if isAbstract head then .abstractMethodSignature
    else .methodSignature
  (.branch kind (head ++ signature ++ body), items)

def fieldRest (size : Nat) (head : List Part) (items : Items) : Sketch × Items :=
  let (type, items) := typeClause size .declaredType items
  let (value, items) := initializer size false items
  (.branch .fieldDefinition (head ++ type ++ value), items)

/-- One member of a class; an item that begins none is skipped. -/
def classMember (size : Nat) (items : Items) : List Part × Items :=
  let (decorated, items) := decorators (size + 1) items
  let (modified, items) := modifiers false items
  match items with
  | [] => (decorated ++ modified, [])
  | item :: rest =>
    match memberName? item with
    | none => (decorated ++ modified ++ [leafPart item], rest)
    | some name =>
      if isIndexSignature item then
        let (type, rest) := typeClause size .declaredType rest
        ([bare (.branch .plain (decorated ++ modified ++ leafPart item :: type))], rest)
      else
        match rest with
        | block :: after =>
          if item.isTheWord "static" && block.isGroup "\x7b" && modified.isEmpty then
            ([bare (.branch .plain
              (decorated ++ [keywordPart item, as .body (ofItem .statements block)]))], after)
          else
            let (mark, rest) := questionMark rest
            let head := decorated ++ modified ++ as .name name :: mark
            let (member, rest) :=
              if startsSignature rest then methodRest size head rest else fieldRest size head rest
            ([bare member], rest)
        | [] =>
          ([bare (.branch .fieldDefinition (decorated ++ modified ++ [as .name name]))], [])

/-- Repeats a reading that takes at least one item each time; `found` is in reverse. -/
def repeatedly (read : Items → List Part × Items) : (fuel : Nat) → Items → List Part → List Part
  | 0, _, found => found.reverse
  | _, [], found => found.reverse
  | fuel + 1, item :: rest, found =>
    let (parts, rest) := read (item :: rest)
    repeatedly read fuel rest (parts.reverse ++ found)

def classMembers (size : Nat) (items : Items) : List Part :=
  repeatedly (classMember size) size items []

/-! ### Interfaces -/

/-- `new` before a signature has no name; neither has a bare signature. -/
def isNameless (item : Item) (rest : Items) : Bool :=
  startsSignature [item] || (item.isTheWord "new" && startsSignature rest)

def interfaceMember (size : Nat) (items : Items) : List Part × Items :=
  let (modified, items) := modifiers false items
  match items with
  | [] => (modified, [])
  | item :: rest =>
    if isNameless item rest then
      let (new, items) :=
        if item.isTheWord "new" then ([keywordPart item], rest) else ([], item :: rest)
      let (signature, rest) := signature size items
      ([bare (.branch .plain (modified ++ new ++ signature))], rest)
    else if isIndexSignature item then
      let (type, rest) := typeClause size .declaredType rest
      ([bare (.branch .plain (modified ++ leafPart item :: type))], rest)
    else
      match memberName? item with
      | none => (modified ++ [leafPart item], rest)
      | some name =>
        let (mark, rest) := questionMark rest
        let head := modified ++ as .name name :: mark
        if startsSignature rest then
          let (signature, rest) := signature size rest
          ([bare (.branch .methodSignature (head ++ signature))], rest)
        else
          let (type, rest) := typeClause size .declaredType rest
          ([bare (.branch .propertySignature (head ++ type))], rest)

def interfaceMembers (size : Nat) (items : Items) : List Part :=
  repeatedly (interfaceMember size) size items []

/-! ### Objects -/

/-- One member of an object: a pair, a method, a spread or a shorthand. -/
def objectMember (size : Nat) (items : Items) : List Part × Items :=
  let (modified, items) := modifiers true items
  match items with
  | [] => (modified, [])
  | item :: rest =>
    match memberName? item with
    | some key =>
      if startsSignature rest then
        let (method, rest) := methodRest size (modified ++ [as .name key]) rest
        ([bare method], rest)
      else
        match rest with
        | mark :: after =>
          if mark.isMark ":" then
            let (value, after) := expression size true after
            let pair := as .key key :: leafPart mark :: value.toList.map (as .value)
            (modified ++ [bare (.branch .pair pair)], after)
          else
            let (value, after) := initializer size true rest
            (modified ++ [bare (.branch .plain (bare key :: value))], after)
        | [] => (modified ++ [bare key], [])
    | none =>
      if item.isMark "..." then
        let (value, rest) := expression size true rest
        (modified ++ [bare (.branch .plain (leafPart item :: value.toList.map bare))], rest)
      else (modified ++ [leafPart item], rest)

def objectMembers (size : Nat) (items : Items) : List Part :=
  repeatedly (objectMember size) size items []

/-! ### Patterns and parameters -/

def patternSketch (item : Item) : Sketch :=
  if item.isGroup "[" then ofItem .arrayPattern item
  else if item.isGroup "\x7b" then ofItem .objectPattern item
  else ofItem .list item

/-- A target up to its default value or the next comma. -/
def targetItems (seen : List Part) : Items → List Part × Items
  | [] => (seen.reverse, [])
  | item :: rest =>
    if item.isMark "=" || item.isMark "," then (seen.reverse, item :: rest)
    else targetItems (bare (patternSketch item) :: seen) rest

def patternElement (size : Nat) (items : Items) : List Part × Items :=
  match items with
  | [] => ([], [])
  | item :: rest =>
    if item.isMark "," then ([leafPart item], rest)
    else
      let (target, rest) := targetItems [bare (patternSketch item)] rest
      let (value, rest) := initializer size true rest
      ([bare (.branch .plain (target ++ value))], rest)

def patternElements (size : Nat) (items : Items) : List Part :=
  repeatedly (patternElement size) size items []

/-- A key with a colon goes before the target it is taken to. -/
def objectPatternMember (size : Nat) (items : Items) : List Part × Items :=
  match items with
  | key :: colon :: target :: rest =>
    if colon.isMark ":" && (memberName? key).isSome then
      let (element, rest) := patternElement size (target :: rest)
      let keySketch := (memberName? key).getD (ofItem .plain key)
      ([bare (.branch .plain (bare keySketch :: leafPart colon :: element))], rest)
    else patternElement size items
  | _ => patternElement size items

def objectPatternMembers (size : Nat) (items : Items) : List Part :=
  repeatedly (objectPatternMember size) size items []

def parameterModifierWords : List String := ["override", "readonly"]

/-- A parameter with an access modifier or `readonly` is a property of its class as well. -/
def parameterModifiers : Items → List Part × Items
  | [] => ([], [])
  | [item] => ([], [item])
  | item :: next :: rest =>
    if item.isWord && (accessWords.contains item.text || parameterModifierWords.contains item.text)
        && (next.isWord || next.isGroup "[" || next.isGroup "\x7b") then
      let (more, rest) := parameterModifiers (next :: rest)
      (modifierPart item :: more, rest)
    else ([], item :: next :: rest)

def parameter (size : Nat) (items : Items) : List Part × Items :=
  let (decorated, items) := decorators (size + 1) items
  let (modified, items) := parameterModifiers items
  let (rest?, items) := markPart "..." items
  match items with
  | [] => (decorated ++ modified ++ rest?, [])
  | item :: rest =>
    if item.isMark "," || item.kind? = some .mark then
      (decorated ++ modified ++ rest? ++ [leafPart item], rest)
    else
      let target := patternSketch item
      let pattern := if rest?.isEmpty then target else .branch .plain (rest? ++ [bare target])
      let (mark, rest) := questionMark rest
      let (type, rest) := typeClause size .declaredType rest
      let (value, rest) := initializer size true rest
      let kind := if mark.isEmpty then .requiredParameter else .optionalParameter
      ([bare (.branch kind
        (decorated ++ modified ++ as .pattern pattern :: mark ++ type ++ value))], rest)

def parametersOf (size : Nat) (items : Items) : List Part :=
  repeatedly (parameter size) size items []

/-! ### Enumerations, lists and templates -/

def enumMember (size : Nat) (items : Items) : List Part × Items :=
  match items with
  | [] => ([], [])
  | item :: rest =>
    let (value, rest) := initializer size true rest
    ([bare (.branch .plain (bare ((memberName? item).getD (ofItem .plain item)) :: value))], rest)

def enumMembers (size : Nat) (items : Items) : List Part :=
  repeatedly (enumMember size) size items []

/-- One expression of a list; an item that begins none is skipped. -/
def listElement (size : Nat) (items : Items) : List Part × Items :=
  match expression size true items, items with
  | (none, _), item :: rest => ([leafPart item], rest)
  | (none, _), [] => ([], [])
  | (some sketch, rest), _ => ([bare sketch], rest)

def listElements (size : Nat) (items : Items) : List Part :=
  repeatedly (listElement size) size items []

def templateParts (items : Items) : List Part :=
  items.map fun item => bare (ofItem .list item)

end SeedNavigator.Script
