/-! Places in a text, counted in the bytes of its UTF-8 form. A text is cut between two characters, never
within one. -/
namespace SeedNavigator.Text

/-- A byte that goes on with the character of the byte before it. -/
def goesOn (byte : UInt8) : Bool :=
  0x80 ≤ byte && byte < 0xC0

/-- Whether a text can be cut here: in front of the first byte of a character, or at the end. -/
def isBoundary (text : String) (index : Nat) : Bool :=
  if index = 0 then true
  else if inside : index < text.utf8ByteSize then !goesOn (text.getUTF8Byte ⟨index⟩ inside)
  else index = text.utf8ByteSize

/-- The last boundary up to an index, searched for byte by byte. From the first byte there is no way back. -/
def lastBoundary? (text : String) (index : Nat) : Option Nat :=
  if isBoundary text index then some index
  else match index with
    | 0 => none
    | before + 1 => lastBoundary? text before

/-- The longest beginning of a text that does not exceed the given number of bytes. -/
def front : (bytes : Nat) → (text : List Char) → List Char
  | _, [] => []
  | bytes, c :: rest =>
    if c.utf8Size ≤ bytes then c :: front (bytes - c.utf8Size) rest else []

/-- The text in front of a boundary. There is no text in front of any other place. -/
def upTo? (text : String) (index : Nat) : Option String :=
  if isBoundary text index then some (String.ofList (front index text.toList)) else none

/-- The text behind a boundary. There is no text behind any other place. -/
def after? (text : String) (index : Nat) : Option String :=
  if isBoundary text index then some (String.ofList (text.toList.drop (front index text.toList).length)) else none

/-- The text between its first byte and its last one. -/
def inner? (text : String) : Option String :=
  (upTo? text (text.utf8ByteSize - 1)).bind (after? · 1)

@[simp] theorem isBoundary_zero (text : String) : isBoundary text 0 = true := rfl

theorem isBoundary_of_lastBoundary? {text : String} {index place : Nat}
    (h : lastBoundary? text index = some place) : isBoundary text place = true := by
  fun_induction lastBoundary? text index with
  | case1 index found => exact Option.some.inj h ▸ found
  | case2 => contradiction
  | case3 before _ ih => exact ih h

/-- The search ends at the first byte at the latest. -/
theorem exists_lastBoundary? (text : String) (index : Nat) :
    ∃ place, lastBoundary? text index = some place := by
  fun_induction lastBoundary? text index with
  | case1 index => exact ⟨index, rfl⟩
  | case2 refused => exact absurd (isBoundary_zero text) refused
  | case3 before _ ih => exact ih

end SeedNavigator.Text
