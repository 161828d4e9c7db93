import SeedNavigator.Json.Fault

/-! Read (JSON × Source) from the front of a text. A reading gives what it has found and the rest of the text, or
the first fault it meets. A fault is placed behind the byte that shows it. -/
namespace SeedNavigator.Json

abbrev Source := List Char

abbrev Read := Except Failure

/-- A fault behind all that has been read. -/
def failHere {α : Type} (fault : Fault) (rest : Source) : Read α :=
  .error ⟨fault, byteCount rest⟩

/-- A fault in the next byte, if there is one. -/
def failNext {α : Type} (fault : Fault) (rest : Source) : Read α :=
  .error ⟨fault, byteCount rest - 1⟩

def isGap (c : Char) : Bool :=
  c = ' ' || c = '\n' || c = '\t' || c = '\r'

def skipGap (source : Source) : Source :=
  source.dropWhile isGap

def expectWord (word : List Char) (source : Source) : Read Source :=
  match word, source with
  | [], rest => .ok rest
  | _ :: _, [] => failHere .endInValue []
  | w :: word, c :: rest => if w = c then expectWord word rest else failNext .expectedWord (c :: rest)

/-! ### Strings -/

def hexValue? (c : Char) : Option Nat :=
  if c.isDigit then some (c.toNat - 48)
  else if 'a' ≤ c && c ≤ 'f' then some (c.toNat - 87)
  else if 'A' ≤ c && c ≤ 'F' then some (c.toNat - 55)
  else none

def hexNumber? (digits : List Char) : Option Nat :=
  digits.foldlM (fun n c => (hexValue? c).map (16 * n + ·)) 0

/-- The number in the four bytes of an escape. -/
def readHex (source : Source) : Read (Nat × Source) :=
  if byteCount source < 4 then .error ⟨.endInString, 0⟩
  else
    match hexNumber? (source.take 4) with
    | some n => .ok (n, source.drop 4)
    | none => .error ⟨.invalidEscape, byteCount source - 4⟩

def isHighSurrogate (n : Nat) : Bool := 0xD800 ≤ n && n ≤ 0xDBFF

def isLowSurrogate (n : Nat) : Bool := 0xDC00 ≤ n && n ≤ 0xDFFF

/-- The second half of a character that is written in two escapes. -/
def readSecondHalf (high : Nat) (source : Source) : Read (Char × Source) :=
  match source with
  | '\\' :: 'u' :: rest => do
    let (low, rest) ← readHex rest
    if isLowSurrogate low then
      pure (Char.ofNat (0x10000 + 1024 * (high - 0xD800) + (low - 0xDC00)), rest)
    else failHere .loneSurrogate rest
  | ['\\'] | [] => .error ⟨.endInString, 0⟩
  | '\\' :: rest => failNext .halfSurrogate rest
  | rest => failNext .halfSurrogate rest

/-- The character of an escape whose backslash and `u` have been read. -/
def readCharacter (source : Source) : Read (Char × Source) := do
  let (n, rest) ← readHex source
  if isLowSurrogate n then failHere .loneSurrogate rest
  else if isHighSurrogate n then readSecondHalf n rest
  else pure (Char.ofNat n, rest)

def plainEscape? (c : Char) : Option Char :=
  if c = '"' || c = '\\' || c = '/' then some c
  else if c = 'b' then some '\x08'
  else if c = 'f' then some '\x0c'
  else if c = 'n' then some '\n'
  else if c = 'r' then some '\r'
  else if c = 't' then some '\t'
  else none

def readEscape (source : Source) : Read (Char × Source) :=
  match source with
  | [] => failHere .endInString []
  | 'u' :: rest => readCharacter rest
  | c :: rest =>
    match plainEscape? c with
    | some plain => .ok (plain, rest)
    | none => failNext .invalidEscape (c :: rest)

/-- The text up to the closing quote; `seen` is in reverse. -/
def readStringFrom : (fuel : Nat) → (seen : List Char) → Source → Read (String × Source)
  | 0, _, rest => failHere .endInString rest
  | _, _, [] => failHere .endInString []
  | fuel + 1, seen, c :: rest =>
    if c = '"' then .ok (String.ofList seen.reverse, rest)
    else if c = '\\' then
      match readEscape rest with
      | .ok (escaped, rest) => readStringFrom fuel (escaped :: seen) rest
      | .error failure => .error failure
    else if c.toNat < 32 then failNext .controlCharacter (c :: rest)
    else readStringFrom fuel (c :: seen) rest

/-- A string whose opening quote has been read. -/
def readString (source : Source) : Read (String × Source) :=
  readStringFrom (source.length + 1) [] source

def skipEscape (source : Source) : Read Source :=
  match source with
  | [] => failHere .endInString []
  | 'u' :: rest => do
    let (_, rest) ← readHex rest
    pure rest
  | c :: rest => if (plainEscape? c).isSome then .ok rest else failNext .invalidEscape (c :: rest)

def skipStringFrom : (fuel : Nat) → Source → Read Source
  | 0, rest => failHere .endInString rest
  | _, [] => failHere .endInString []
  | fuel + 1, c :: rest =>
    if c = '"' then .ok rest
    else if c = '\\' then
      match skipEscape rest with
      | .ok rest => skipStringFrom fuel rest
      | .error failure => .error failure
    else if c.toNat < 32 then failHere .controlCharacter (c :: rest)
    else skipStringFrom fuel rest

/-- Halves of characters do not matter in a string that nobody asks for. -/
def skipString (source : Source) : Read Source :=
  skipStringFrom (source.length + 1) source

/-! ### Numbers -/

def dropDigits (source : Source) : Source :=
  source.dropWhile (·.isDigit)

def maxNatural : Nat := UInt64.size - 1

def maxExponent : Nat := Nat.pow 2 31 - 1

def powerOfTen (exponent : Nat) : Float :=
  Float.ofScientific 1 false exponent

/-- The value of a significand and a power of ten; `none` if it is too large. -/
def scaled? (significand : Nat) (up : Bool) (exponent : Nat) : Option Float :=
  let value := Float.ofNat significand
  if exponent ≤ 308 then
    if up then
      let value := value * powerOfTen exponent
      if value.isInf then none else some value
    else some (value / powerOfTen exponent)
  else if significand = 0 then some 0
  else if up then none
  else
    let value := value / powerOfTen 308
    some (if exponent ≤ 616 then value / powerOfTen (exponent - 308) else 0)

def signed (positive : Bool) (value : Float) : Number :=
  .real (if positive then value else -value)

/-- The digits before and after the point, as far as they count: digits that no longer fit into 64
bits only move the point. -/
structure Digits where
  significand : Nat
  /-- The power of ten that the significand is to be multiplied with. -/
  exponent : Int

/-- Digits behind a point. -/
def Digits.takeFraction : Digits → Source → Digits
  | digits, [] => digits
  | digits, c :: rest =>
    if c.isDigit then
      let next := 10 * digits.significand + (c.toNat - 48)
      if maxNatural < next then digits else Digits.takeFraction ⟨next, digits.exponent - 1⟩ rest
    else digits

def scaledBy (positive : Bool) (digits : Digits) (shift : Int) (rest : Source) : Read (Number × Source) :=
  let exponent := digits.exponent + shift
  match scaled? digits.significand (0 ≤ exponent) exponent.natAbs with
  | some value => .ok (signed positive value, rest)
  | none => failHere .hugeNumber rest

/-- The value of the digits of an exponent, or where they go beyond what an exponent can be. -/
def exponentFrom : (value : Nat) → Source → Nat × Option Source
  | value, [] => (value, none)
  | value, c :: rest =>
    if c.isDigit then
      let next := 10 * value + (c.toNat - 48)
      if maxExponent < next then (value, some rest) else exponentFrom next rest
    else (value, none)

/-- An exponent whose letter has been read. -/
def readExponent (positive : Bool) (digits : Digits) (source : Source) : Read (Number × Source) :=
  let up := source.head? ≠ some '-'
  let source := if source.head? = some '+' || source.head? = some '-' then source.drop 1 else source
  match source with
  | [] => failHere .endInValue []
  | c :: rest =>
    if !c.isDigit then failNext .invalidNumber (c :: rest)
    else
      match exponentFrom 0 (c :: rest) with
      | (value, none) => scaledBy positive digits (if up then value else -value) (dropDigits rest)
      | (_, some overflow) =>
        if up && digits.significand ≠ 0 then failHere .hugeNumber overflow
        else .ok (signed positive 0, dropDigits overflow)

def readAfterDigits (positive : Bool) (digits : Digits) (source : Source) : Read (Number × Source) :=
  match source with
  | 'e' :: rest | 'E' :: rest => readExponent positive digits rest
  | rest => scaledBy positive digits 0 rest

/-- A fraction whose point has been read. -/
def readFraction (positive : Bool) (digits : Digits) (source : Source) : Read (Number × Source) :=
  match source with
  | [] => failHere .endInValue []
  | c :: rest =>
    if c.isDigit then
      readAfterDigits positive (digits.takeFraction (c :: rest)) (dropDigits rest)
    else failNext .invalidNumber (c :: rest)

def integer (positive : Bool) (value : Nat) : Number :=
  if positive then .natural value
  else if value = 0 ∨ Nat.pow 2 63 < value then signed false (Float.ofNat value)
  else .negative value

/-- The integer digits of a number; of those that do not fit only the count is kept. -/
def integerDigits : (value : Nat) → Source → Nat × Nat
  | value, [] => (value, 0)
  | value, c :: rest =>
    if c.isDigit then
      let next := 10 * value + (c.toNat - 48)
      if maxNatural < next then (value, ((c :: rest).takeWhile (·.isDigit)).length)
      else integerDigits next rest
    else (value, 0)

/-- A number whose sign has been read. -/
def readNumber (positive : Bool) (source : Source) : Read (Number × Source) :=
  match source with
  | [] => failHere .endInValue []
  | c :: rest =>
    if !c.isDigit then failNext .invalidNumber (c :: rest)
    else if c = '0' && rest.head?.any (·.isDigit) then failNext .invalidNumber rest
    else
      let (value, dropped) := integerDigits 0 (c :: rest)
      let digits : Digits := ⟨value, dropped⟩
      match dropDigits rest with
      | '.' :: rest => readFraction positive digits rest
      | 'e' :: rest | 'E' :: rest => readExponent positive digits rest
      | rest => if dropped = 0 then .ok (integer positive value, rest) else scaledBy positive digits 0 rest

def skipExponent (source : Source) : Read Source :=
  let source := if source.head? = some '+' || source.head? = some '-' then source.drop 1 else source
  match source with
  | [] => failHere .invalidNumber []
  | c :: rest => if c.isDigit then .ok (dropDigits rest) else failNext .invalidNumber (c :: rest)

def skipFraction (source : Source) : Read Source :=
  match source with
  | [] => failHere .invalidNumber []
  | c :: rest =>
    if !c.isDigit then failNext .invalidNumber (c :: rest)
    else
      match dropDigits rest with
      | 'e' :: rest | 'E' :: rest => skipExponent rest
      | rest => .ok rest

/-- A number that nobody asks for may be of any size. -/
def skipNumber (source : Source) : Read Source :=
  match source with
  | [] => failHere .invalidNumber []
  | c :: rest =>
    if !c.isDigit then failNext .invalidNumber (c :: rest)
    else if c = '0' && rest.head?.any (·.isDigit) then failNext .invalidNumber rest
    else
      match if c = '0' then rest else dropDigits rest with
      | '.' :: rest => skipFraction rest
      | 'e' :: rest | 'E' :: rest => skipExponent rest
      | rest => .ok rest

/-! ### Values that nobody asks for -/

inductive Bracket where
  | list
  | object

def Bracket.closer : Bracket → Char
  | .list => ']'
  | .object => '\x7d'

def Bracket.unclosed : Bracket → Fault
  | .list => .endInList
  | .object => .endInObject

def Bracket.expectedEnd : Bracket → Fault
  | .list => .expectedListEnd
  | .object => .expectedObjectEnd

/-- A value that is no list or object, or the opening of one. -/
def skipScalar (source : Source) : Read (Option Bracket × Source) :=
  let plain := fun (result : Read Source) => result.map fun rest => (none, rest)
  match source with
  | [] => failNext .endInValue []
  | 'n' :: rest => plain (expectWord "ull".toList rest)
  | 't' :: rest => plain (expectWord "rue".toList rest)
  | 'f' :: rest => plain (expectWord "alse".toList rest)
  | '-' :: rest => plain (skipNumber rest)
  | '"' :: rest => plain (skipString rest)
  | '[' :: rest => .ok (some .list, rest)
  | '\x7b' :: rest => .ok (some .object, rest)
  | c :: rest => if c.isDigit then plain (skipNumber (c :: rest)) else failNext .expectedValue (c :: rest)

/-- A key and its colon. -/
def skipKey (source : Source) : Read Source :=
  match skipGap source with
  | '"' :: rest => do
    match skipGap (← skipString rest) with
    | ':' :: rest => pure rest
    | [] => failNext .endInObject []
    | rest => failNext .expectedColon rest
  | [] => failNext .endInObject []
  | rest => failNext .bareKey rest

/-- Closes brackets until another element follows; `none` if the whole value has ended. -/
def closeBrackets : (open? : List Bracket) → (comma : Bool) → Source →
    Read (Option (List Bracket) × Source)
  | [], _, rest => .ok (none, rest)
  | bracket :: outer, comma, source =>
    match skipGap source with
    | [] => failNext bracket.unclosed []
    | c :: rest =>
      if c = ',' && comma then .ok (some (bracket :: outer), rest)
      else if c = bracket.closer then closeBrackets outer true rest
      else if comma then failNext bracket.expectedEnd (c :: rest)
      else .ok (some (bracket :: outer), c :: rest)

def skipFrom : (fuel : Nat) → List Bracket → Source → Read Source
  | 0, _, rest => .ok rest
  | fuel + 1, brackets, source => do
    let (opened, rest) ← skipScalar (skipGap source)
    match ← closeBrackets (opened.toList ++ brackets) opened.isNone rest with
    | (none, rest) => pure rest
    | (some [], rest) => pure rest
    | (some (.list :: outer), rest) => skipFrom fuel (.list :: outer) rest
    | (some (.object :: outer), rest) => skipFrom fuel (.object :: outer) (← skipKey rest)

/-- Lists and objects may be nested as deep as they like. -/
def skipValue (source : Source) : Read Source :=
  skipFrom (source.length + 1) [] source

/-! ### Values that are asked for -/

/-- The fault of a value of the wrong type. -/
def mismatch {α : Type} (expected : String) (source : Source) : Read α :=
  let wrong := fun (found : Found) (rest : Source) => failHere (.wrongType found expected) rest
  match source with
  | [] => failNext .expectedValue []
  | 'n' :: rest => do wrong .null (← expectWord "ull".toList rest)
  | 't' :: rest => do wrong (.boolean true) (← expectWord "rue".toList rest)
  | 'f' :: rest => do wrong (.boolean false) (← expectWord "alse".toList rest)
  | '-' :: rest => do
    let (number, rest) ← readNumber false rest
    wrong (.number number) rest
  | '"' :: rest => do
    let (text, rest) ← readString rest
    wrong (.string text) rest
  | '[' :: rest => wrong .list ('[' :: rest)
  | '\x7b' :: rest => wrong .map ('\x7b' :: rest)
  | c :: rest =>
    if c.isDigit then do
      let (number, rest) ← readNumber true (c :: rest)
      wrong (.number number) rest
    else failNext .expectedValue (c :: rest)

def readText (expected : String) (source : Source) : Read (String × Source) :=
  match skipGap source with
  | [] => failNext .endInValue []
  | '"' :: rest => readString rest
  | rest => mismatch expected rest

def asNatural (number : Number) (rest : Source) : Read (Nat × Source) :=
  match number with
  | .natural value => .ok (value, rest)
  | .negative _ => failHere (.wrongValue (.number number) "u64") rest
  | .real _ => failHere (.wrongType (.number number) "u64") rest

/-- A natural number of at most 64 bits. -/
def readNatural (source : Source) : Read (Nat × Source) :=
  match skipGap source with
  | [] => failNext .endInValue []
  | '-' :: rest => do
    let (number, rest) ← readNumber false rest
    asNatural number rest
  | c :: rest =>
    if c.isDigit then do
      let (number, rest) ← readNumber true (c :: rest)
      asNatural number rest
    else mismatch "u64" (c :: rest)

def readNull (source : Source) : Read Source :=
  match skipGap source with
  | [] => failNext .endInValue []
  | 'n' :: rest => expectWord "ull".toList rest
  | rest => mismatch "unit" rest

/-- The value of a known name. -/
def lookUp {α : Type} (choices : List (String × α)) (name : String) (rest : Source) : Read (α × Source) :=
  match choices.lookup name with
  | some choice => .ok (choice, rest)
  | none => failHere (.unknownChoice name (choices.map (·.1))) rest

def readColon (source : Source) : Read Source :=
  match skipGap source with
  | ':' :: rest => .ok rest
  | [] => failNext .endInObject []
  | rest => failNext .expectedColon rest

/-- One of several names, alone or as the only key of an object, with null for its value. -/
def readChoice {α : Type} (choices : List (String × α)) (source : Source) : Read (α × Source) :=
  match skipGap source with
  | [] => failNext .endInValue []
  | '"' :: rest => do
    let (name, rest) ← readString rest
    lookUp choices name rest
  | '\x7b' :: rest => do
    let (name, rest) ← readText "variant identifier" rest
    let (choice, rest) ← lookUp choices name rest
    match skipGap (← readNull (← readColon rest)) with
    | '\x7d' :: rest => pure (choice, rest)
    | [] => failHere .endInObject []
    | rest => failHere .expectedValue rest
  | rest => failNext .expectedValue rest

/-! ### Lists and objects -/

/-- How the next part of a list or object begins, if there is one. -/
def nextPart? (bracket : Bracket) (first : Bool) (source : Source) :
    Read (Option Source) :=
  match skipGap source with
  | [] => failNext bracket.unclosed []
  | c :: rest =>
    if c = bracket.closer then .ok none
    else if c = ',' && !first then
      match skipGap rest with
      | [] => failNext .endInValue []
      | d :: rest => if d = bracket.closer then failNext .trailingComma (d :: rest) else .ok (some (d :: rest))
    else if first then .ok (some (c :: rest))
    else failNext bracket.expectedEnd (c :: rest)

/-- The closing brace of an object. -/
def readObjectEnd (source : Source) : Read Source :=
  match skipGap source with
  | '\x7d' :: rest => .ok rest
  | [] => failNext .endInObject []
  | ',' :: rest => failNext .trailingComma (',' :: rest)
  | rest => failNext .trailingText rest

def readListEnd (source : Source) : Read Source :=
  match skipGap source with
  | ']' :: rest => .ok rest
  | [] => failNext .endInList []
  | ',' :: rest =>
    match skipGap rest with
    | ']' :: rest => failNext .trailingComma (']' :: rest)
    | rest => failNext .trailingText rest
  | rest => failNext .trailingText rest

/-- A field that an object has a second time. The object is closed before the fault is placed. -/
def repeatedField {α : Type} (name : String) (source : Source) : Read α :=
  match skipGap source with
  | '\x7d' :: rest => failHere (.repeatedField name) rest
  | rest => failHere (.repeatedField name) rest

/-- The fields of an object whose opening brace has been read. `field` gets each key and what
follows its colon; `seen` holds the known keys so far. -/
def readFieldsFrom {α : Type} (known : List String) (field : α → String → Source → Read (α × Source)) :
    (fuel : Nat) → (seen : List String) → (first : Bool) → α → Source → Read (α × Source)
  | 0, _, _, value, rest => .ok (value, rest)
  | fuel + 1, seen, first, value, source => do
    match ← nextPart? .object first source with
    | none => pure (value, ← readObjectEnd source)
    | some ('"' :: rest) =>
      let (key, rest) ← readString rest
      if !known.contains key then
        readFieldsFrom known field fuel seen false value (← skipValue (← readColon rest))
      else if seen.contains key then repeatedField key rest
      else
        let (value, rest) ← field value key (← readColon rest)
        readFieldsFrom known field fuel (key :: seen) false value rest
    | some rest => failNext .bareKey rest

/-- The elements of a list, in the order of the known fields. Fields that are left over keep what
they have. -/
def readElementsFrom {α : Type} (field : α → String → Source → Read (α × Source)) :
    (known : List String) → (first : Bool) → α → Source → Read (α × Source)
  | [], _, value, source => do pure (value, ← readListEnd source)
  | key :: known, first, value, source => do
    match ← nextPart? .list first source with
    | none => pure (value, ← readListEnd source)
    | some rest =>
      let (value, rest) ← field value key rest
      readElementsFrom field known false value rest

/-- A record with the given fields, from an object or from a list. -/
def readRecord {α : Type} (name : String) (known : List String)
    (field : α → String → Source → Read (α × Source)) (default : α) (source : Source) : Read (α × Source) :=
  match skipGap source with
  | [] => failNext .endInValue []
  | '[' :: rest => readElementsFrom field known true default rest
  | '\x7b' :: rest => readFieldsFrom known field (rest.length + 1) [] true default rest
  | rest => mismatch name rest

/-- A text that holds one value and nothing else. -/
def readWhole {α : Type} (read : Source → Read (α × Source)) (text : String) : Except Located α :=
  let source := text.toList
  let result : Read α := do
    let (value, rest) ← read source
    match skipGap rest with
    | [] => pure value
    | rest => failNext .trailingText rest
  result.mapError (·.locate source)

end SeedNavigator.Json
