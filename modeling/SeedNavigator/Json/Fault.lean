/-! What can be wrong with a JSON text, and where. A text may break off, be malformed, or be well formed
and hold something else than what is asked for. -/
namespace SeedNavigator.Json

inductive Number where
  | natural (value : Nat)
  | negative (size : Nat)
  /-- A number with a fraction or an exponent, or one of more than 64 bits. -/
  | real (value : Float)

/-- What stands where something else is asked for. -/
inductive Found where
  | null
  | boolean (value : Bool)
  | number (value : Number)
  | string (value : String)
  | list
  | map

inductive Fault where
  | endInList
  | endInObject
  | endInString
  | endInValue
  | expectedColon
  | expectedListEnd
  | expectedObjectEnd
  | expectedWord
  | expectedValue
  | invalidEscape
  | invalidNumber
  | hugeNumber
  | controlCharacter
  | bareKey
  | loneSurrogate
  | halfSurrogate
  | trailingComma
  | trailingText
  | wrongType (found : Found) (expected : String)
  | wrongValue (found : Found) (expected : String)
  | unknownChoice (name : String) (choices : List String)
  | repeatedField (name : String)

inductive FaultKind where
  | incomplete
  | malformed
  | mistyped
  deriving DecidableEq, Repr

def Fault.kind : Fault → FaultKind
  | .endInList | .endInObject | .endInString | .endInValue => .incomplete
  | .wrongType .. | .wrongValue .. | .unknownChoice .. | .repeatedField _ => .mistyped
  | _ => .malformed

/-- A fault with the number of bytes that are left of the text behind it. -/
structure Failure where
  fault : Fault
  left : Nat

/-- A fault with its line, counted from one, and the bytes before it on that line. -/
structure Located where
  fault : Fault
  line : Nat
  column : Nat

/-- The place behind the given number of bytes. -/
def placeFrom : (line column bytes : Nat) → (text : List Char) → Nat × Nat
  | line, column, bytes, [] => (line, column + bytes)
  | line, column, bytes, c :: rest =>
    if bytes < c.utf8Size then (line, column + bytes)
    else if c = '\n' then placeFrom (line + 1) 0 (bytes - 1) rest
    else placeFrom line (column + c.utf8Size) (bytes - c.utf8Size) rest

def byteCount (text : List Char) : Nat :=
  text.foldl (fun count c => count + c.utf8Size) 0

def Failure.locate (failure : Failure) (text : List Char) : Located :=
  let (line, column) := placeFrom 1 0 (byteCount text - failure.left) text
  ⟨failure.fault, line, column⟩

end SeedNavigator.Json
