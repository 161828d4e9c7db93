import SeedNavigator.Glob.Basic

/-! Which paths a glob matches. Paths are compared byte by byte, so a character beyond ASCII takes as
many question marks as it has bytes. -/
namespace SeedNavigator.Glob

abbrev Bytes := List UInt8

def slash : UInt8 := 47

/-- What is left of a text behind a known beginning. -/
def after : (head text : Bytes) → List Bytes
  | [], text => [text]
  | _ :: _, [] => []
  | h :: head, b :: text => if h = b then after head text else []

/-- All endings of a text, the text itself among them. -/
def endings : Bytes → List Bytes
  | [] => [[]]
  | b :: rest => (b :: rest) :: endings rest

/-- What is left behind any number of bytes that are no slashes. -/
def behindRun : Bytes → List Bytes
  | [] => [[]]
  | b :: rest => (b :: rest) :: if b = slash then [] else behindRun rest

/-- What is left behind each slash. -/
def behindSlashes : Bytes → List Bytes
  | [] => []
  | b :: rest => if b = slash then rest :: behindSlashes rest else behindSlashes rest

/-- The bytes of a range of characters: beyond ASCII, the bytes of both ends, and the range from the
last byte of the first end to the first byte of the second. -/
def inRange (b : UInt8) (first last : Char) : Bool :=
  let low := String.utf8EncodeChar first
  let high := String.utf8EncodeChar last
  if first = last then low.contains b
  else
    low.dropLast.contains b || (high.drop 1).contains b ||
      (low.getLast?.any (· ≤ b) && high.head?.any (b ≤ ·))

def inRanges (b : UInt8) (ranges : List (Char × Char)) : Bool :=
  ranges.any fun (first, last) => inRange b first last

def oneByte (test : UInt8 → Bool) : Bytes → List Bytes
  | [] => []
  | b :: rest => if test b then [rest] else []

/-! ### Matching -/

mutual

/-- Whether nothing stands in a piece. Such a choice does not count. -/
def Piece.isVoid : Piece → Bool
  | .alternatives choices => areVoid choices
  | _ => false

def allVoid : List Piece → Bool
  | [] => true
  | piece :: rest => piece.isVoid && allVoid rest

def areVoid : List (List Piece) → Bool
  | [] => true
  | choice :: rest => allVoid choice && areVoid rest

end

mutual

/-- What a piece can leave of a text. -/
def Piece.leaves : Piece → Bytes → List Bytes
  | .char c, text => after (String.utf8EncodeChar c) text
  | .any, text => oneByte (· ≠ slash) text
  | .run, text => behindRun text
  | .leading, text => text :: behindSlashes text
  | .between, text => (after [slash] text).flatMap fun rest => rest :: behindSlashes rest
  | .trailing, text => (after [slash] text).flatMap endings
  | .oneOf negated ranges, text => oneByte (fun b => inRanges b ranges != negated) text
  | .alternatives choices, text => if areVoid choices then [text] else choicesLeave choices text

def piecesLeave : List Piece → List Bytes → List Bytes
  | [], texts => texts
  | piece :: rest, texts => piecesLeave rest (texts.flatMap piece.leaves).eraseDups

def choicesLeave : List (List Piece) → Bytes → List Bytes
  | [], _ => []
  | choice :: rest, text =>
    (if allVoid choice then [] else piecesLeave choice [text]) ++ choicesLeave rest text

end

/-- Two stars alone match every path. -/
def matchesAll : List Piece → Bool
  | [.leading] => true
  | _ => false

def accepts (glob : Glob) (path : String) : Bool :=
  matchesAll glob.pieces || (piecesLeave glob.pieces [path.toUTF8.toList]).contains []

end SeedNavigator.Glob
