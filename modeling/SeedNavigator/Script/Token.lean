import SeedNavigator.Text.Blank

/-! The tokens of a TypeScript source. A token carries the blanks and comments before it, so that
the text of any run of tokens can be told from the tokens alone. -/
namespace SeedNavigator.Script

open SeedNavigator.Text

inductive TokenKind where
  /-- An identifier or a keyword; the grammar tells them apart. -/
  | word
  | privateWord
  | string
  | number
  | regex
  /-- Text of a template literal between its quotes and substitutions. -/
  | templateText
  | mark
  deriving DecidableEq, Repr

structure Token where
  kind : TokenKind
  gap : String
  text : String
  deriving DecidableEq, Repr

def isLineBreak (c : Char) : Bool :=
  c = '\n' || c.toNat = 0x2028 || c.toNat = 0x2029

/-- The token is not on the line where the one before it ends. -/
def Token.breaksLine (token : Token) : Bool :=
  token.gap.any isLineBreak

/-- Characters without width count as blanks between tokens. -/
def isGap (c : Char) : Bool :=
  isBlank c || c.toNat = 0xFEFF || c.toNat = 0x2060 || c.toNat = 0x200B

def isWordChar (c : Char) : Bool :=
  c.isAlphanum || c = '_' || c = '$' || (0x7F ≤ c.toNat && !isGap c)

def isWordStart (c : Char) : Bool :=
  isWordChar c && !c.isDigit

/-- What has been read of a token, in reverse, and what is left of the source. -/
structure Reading where
  seen : List Char
  rest : List Char

def Reading.text (reading : Reading) : String :=
  String.ofList reading.seen.reverse

/-! ### Gaps -/

def lineComment (seen : List Char) : List Char → Reading
  | [] => ⟨seen, []⟩
  | c :: rest => if isLineBreak c then ⟨seen, c :: rest⟩ else lineComment (c :: seen) rest

def blockComment (seen : List Char) : List Char → Reading
  | [] => ⟨seen, []⟩
  | '*' :: '/' :: rest => ⟨'/' :: '*' :: seen, rest⟩
  | c :: rest => blockComment (c :: seen) rest

/-- `fuel` bounds the number of blanks and comments. -/
def gapFrom : (fuel : Nat) → (seen text : List Char) → Reading
  | 0, seen, text => ⟨seen, text⟩
  | _, seen, [] => ⟨seen, []⟩
  | fuel + 1, seen, '/' :: '/' :: rest =>
    let comment := lineComment ('/' :: '/' :: seen) rest
    gapFrom fuel comment.seen comment.rest
  | fuel + 1, seen, '/' :: '*' :: rest =>
    let comment := blockComment ('*' :: '/' :: seen) rest
    gapFrom fuel comment.seen comment.rest
  | fuel + 1, seen, c :: rest =>
    if isGap c then gapFrom fuel (c :: seen) rest else ⟨seen, c :: rest⟩

/-! ### Words, numbers and literals -/

def wordFrom (seen : List Char) : List Char → Reading
  | [] => ⟨seen, []⟩
  | '\\' :: 'u' :: '\x7b' :: rest => escapedWord ('\x7b' :: 'u' :: '\\' :: seen) rest
  | '\\' :: 'u' :: rest => wordFrom ('u' :: '\\' :: seen) rest
  | c :: rest => if isWordChar c then wordFrom (c :: seen) rest else ⟨seen, c :: rest⟩
where
  escapedWord (seen : List Char) : List Char → Reading
    | [] => ⟨seen, []⟩
    | '\x7d' :: rest => wordFrom ('\x7d' :: seen) rest
    | c :: rest => escapedWord (c :: seen) rest

/-- Digits and letters, a sign after a decimal exponent mark, and one point. -/
def numberFrom (decimal pointed : Bool) (seen : List Char) : List Char → Reading
  | [] => ⟨seen, []⟩
  | c :: rest =>
    if c.isAlphanum || c = '_' then numberFrom decimal pointed (c :: seen) rest
    else if c = '.' && decimal && !pointed then numberFrom decimal true (c :: seen) rest
    else if (c = '+' || c = '-') && decimal && (seen.head? = some 'e' || seen.head? = some 'E') then
      numberFrom decimal pointed (c :: seen) rest
    else ⟨seen, c :: rest⟩

def isDecimal : List Char → Bool
  | '0' :: c :: _ => !(c.isAlpha && c ≠ 'e' && c ≠ 'E')
  | _ => true

/-- Behind a string these marks may come next on any line. -/
def goesOnBehindString (text : List Char) : Bool :=
  (text.dropWhile isGap).head?.any [';', ',', ':', ')', ']', '\x7d'].contains

/-- Where the line ends before the closing quote, the quote counts as missing if the source goes on as it may
behind a string. -/
def stringFrom (quote : Char) (seen : List Char) : List Char → Option Reading
  | [] => none
  | '\\' :: c :: rest => stringFrom quote (c :: '\\' :: seen) rest
  | c :: rest =>
    if c = quote then some ⟨c :: seen, rest⟩
    else if c = '\n' || c = '\r' then
      if goesOnBehindString rest then some ⟨seen, c :: rest⟩ else none
    else stringFrom quote (c :: seen) rest

/-- A slash inside a character class does not end a regular expression. -/
def regexFrom (inClass : Bool) (seen : List Char) : List Char → Option Reading
  | [] => none
  | '\\' :: c :: rest => regexFrom inClass (c :: '\\' :: seen) rest
  | c :: rest =>
    if isLineBreak c then none
    else if c = '/' && !inClass then
      let flags := rest.takeWhile (·.isAlpha)
      some ⟨flags.reverse ++ c :: seen, rest.dropWhile (·.isAlpha)⟩
    else regexFrom (if c = '[' then true else if c = ']' then false else inClass) (c :: seen) rest

/-- Up to the closing quote of a template or its next substitution. -/
def templateTextFrom (seen : List Char) : List Char → Reading
  | [] => ⟨seen, []⟩
  | '\\' :: c :: rest => templateTextFrom (c :: '\\' :: seen) rest
  | '$' :: '\x7b' :: rest => ⟨seen, '$' :: '\x7b' :: rest⟩
  | c :: rest =>
    if c = '\x60' then ⟨seen, c :: rest⟩ else templateTextFrom (c :: seen) rest

/-! ### Marks -/

/-- Marks of more than one character, the longer ones first. A `>` always stands alone, because it
may close a list of type arguments. -/
def longMarks : List (List Char) :=
  ["...", "===", "!==", "**=", "<<=", "&&=", "||=", "??=", "=>", "==", "!=", "<=", "<<", "**", "*=",
    "+=", "++", "-=", "--", "&&", "&=", "||", "|=", "??", "?.", "^=", "%=", "/="].map String.toList

def isPrefixOf : (head text : List Char) → Bool
  | [], _ => true
  | _ :: _, [] => false
  | h :: head, c :: text => h = c && isPrefixOf head text

/-- `a?.5:b` is a condition, not a chain. -/
def isChainMark (mark text : List Char) : Bool :=
  mark ≠ ['?', '.'] || !((text.drop 2).head?.any (·.isDigit))

def markFrom (text : List Char) : Reading :=
  match longMarks.find? fun mark => isPrefixOf mark text && isChainMark mark text with
  | some mark => ⟨mark.reverse, text.drop mark.length⟩
  | none => ⟨(text.take 1).reverse, text.drop 1⟩

/-! ### The whole source -/

/-- A bracket that is still open. For some it is known whether an operand ends where they close,
so that a slash after them divides. -/
inductive Opened where
  | bracket (endsOperand : Bool)
  | template
  | substitution
  deriving DecidableEq

/-- What the next token depends on: the brackets around it and the two tokens before it. -/
structure Situation where
  opened : List Opened := []
  last : String := ""
  beforeLast : String := ""
  /-- An operand has just ended, so a slash divides. -/
  operand : Bool := false

/-- After these words an operand is still to come. -/
def expectantWords : List String :=
  ["return", "typeof", "instanceof", "in", "of", "new", "delete", "void", "throw", "case", "do",
    "else", "await", "yield", "default", "extends"]

def conditionWords : List String := ["if", "while", "for", "with"]

/-- A brace after these tokens begins a block, not a value. -/
def startsBlock (last : String) : Bool :=
  ["", ";", "\x7b", "\x7d", ")", "=>", "]", ">"].contains last ||
    (last.toList.head?.any (fun c => isWordStart c || c = '"' || c = '\'') &&
      !(expectantWords.contains last && last ≠ "do" && last ≠ "else" && last ≠ "extends"))

namespace Situation

def follow (s : Situation) (text : String) (operand : Bool) (opened : List Opened) : Situation :=
  ⟨opened, text, s.last, operand⟩

def closeBracket (s : Situation) (text : String) : Situation :=
  match s.opened with
  | .bracket endsOperand :: outer => s.follow text endsOperand outer
  | outer => s.follow text true outer

def afterMark (s : Situation) (text : String) : Situation :=
  if text = "(" then
    let condition := conditionWords.contains s.last && s.beforeLast ≠ "."
      || (s.last = "await" && s.beforeLast = "for")
    s.follow text false (.bracket (!condition) :: s.opened)
  else if text = "[" then s.follow text false (.bracket true :: s.opened)
  else if text = "\x7b" then s.follow text false (.bracket (!startsBlock s.last) :: s.opened)
  else if text = ")" ∨ text = "]" ∨ text = "\x7d" then s.closeBracket text
  else if text = "++" ∨ text = "--" ∨ text = "!" then s.follow text s.operand s.opened
  else s.follow text false s.opened

def afterWord (s : Situation) (text : String) : Situation :=
  s.follow text (s.last = "." || s.last = "?." || !expectantWords.contains text) s.opened

end Situation

/-- The token at the front of a source that has no gap left at its front. -/
def readToken (s : Situation) (text : List Char) : TokenKind × Reading :=
  match text with
  | [] => (.mark, ⟨[], []⟩)
  | '\'' :: rest | '"' :: rest =>
    let quote := text.headD '"'
    match stringFrom quote [quote] rest with
    | some reading => (.string, reading)
    | none => (.mark, ⟨[quote], rest⟩)
  | '/' :: rest =>
    if s.operand then (.mark, markFrom text)
    else
      match regexFrom false ['/'] rest with
      | some reading => (.regex, reading)
      | none => (.mark, markFrom text)
  | '#' :: c :: rest =>
    if isWordStart c then (.privateWord, wordFrom [c, '#'] rest) else (.mark, ⟨['#'], c :: rest⟩)
  | '\\' :: 'u' :: rest => (.word, wordFrom [] ('\\' :: 'u' :: rest))
  | '.' :: c :: rest =>
    if c.isDigit then (.number, numberFrom true true [c, '.'] rest) else (.mark, markFrom text)
  | c :: rest =>
    if c.isDigit then (.number, numberFrom (isDecimal text) false [c] rest)
    else if isWordChar c then (.word, wordFrom [c] rest)
    else (.mark, markFrom text)

/-- Inside a template literal only its end and its substitutions count. -/
def inTemplate (s : Situation) : Bool :=
  s.opened.head? = some .template

def closesSubstitution (s : Situation) (text : List Char) : Bool :=
  s.opened.head? = some .substitution && text.head? = some '\x7d'

def tokenAt (s : Situation) (gap : Reading) : Token × List Char × Situation :=
  let make := fun kind (reading : Reading) => (⟨kind, gap.text, reading.text⟩ : Token)
  if closesSubstitution s gap.rest then
    let reading := ⟨['\x7d'], gap.rest.drop 1⟩
    (make .mark reading, reading.rest, s.follow "\x7d" true (s.opened.drop 1))
  else if gap.rest.head? = some '\x60' then
    let reading := ⟨['\x60'], gap.rest.drop 1⟩
    (make .mark reading, reading.rest, s.follow "\x60" false (.template :: s.opened))
  else
    let (kind, reading) := readToken s gap.rest
    let next :=
      match kind with
      | .word => s.afterWord reading.text
      | .mark => s.afterMark reading.text
      | _ => s.follow reading.text true s.opened
    (make kind reading, reading.rest, next)

def templateTokenAt (s : Situation) (text : List Char) : Token × List Char × Situation :=
  match text with
  | '\x60' :: rest => (⟨.mark, "", "\x60"⟩, rest, s.follow "\x60" true (s.opened.drop 1))
  | '$' :: '\x7b' :: rest =>
    (⟨.mark, "", "$\x7b"⟩, rest, s.follow "$\x7b" false (.substitution :: s.opened))
  | _ =>
    let reading := templateTextFrom [] text
    (⟨.templateText, "", reading.text⟩, reading.rest, s)

/-- `fuel` bounds the number of tokens and `size` the length of a gap; `found` is in reverse. -/
def tokensFrom (size : Nat) : (fuel : Nat) → Situation → List Char → List Token → List Token
  | 0, _, _, found => found.reverse
  | fuel + 1, s, text, found =>
    if inTemplate s then
      if text.isEmpty then found.reverse
      else
        let (token, rest, next) := templateTokenAt s text
        tokensFrom size fuel next rest (token :: found)
    else
      let gap := gapFrom size [] text
      if gap.rest.isEmpty then found.reverse
      else
        let (token, rest, next) := tokenAt s gap
        tokensFrom size fuel next rest (token :: found)

/-- The first line may name an interpreter. -/
def dropInterpreterLine : List Char → List Char
  | '#' :: '!' :: rest => (lineComment [] rest).rest
  | text => text

def tokens (source : String) : List Token :=
  let text := dropInterpreterLine source.toList
  tokensFrom (text.length + 1) (text.length + 1) {} text []

end SeedNavigator.Script
