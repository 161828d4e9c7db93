import SeedNavigator.Script.Token

/-! Tokens grouped by their brackets. Template literals are groups too, between two backquotes, and
so are the substitutions in them. -/
namespace SeedNavigator.Script

inductive Item where
  | single (token : Token)
  /-- A group that is still open at the end of its surroundings has no closer. -/
  | group (opener : Token) (items : List Item) (closer : Option Token)

namespace Item

def first : Item → Token
  | .single token => token
  | .group opener _ _ => opener

/-- The first character decides much of what may come before. -/
def text (item : Item) : String := item.first.text

def breaksLine (item : Item) : Bool := item.first.breaksLine

def kind? : Item → Option TokenKind
  | .single token => some token.kind
  | .group .. => none

def isWord (item : Item) : Bool := item.kind? = some .word

def isTheWord (item : Item) (word : String) : Bool := item.isWord && item.text = word

def isMark (item : Item) (mark : String) : Bool := item.kind? = some .mark && item.text = mark

def isGroup (item : Item) (opener : String) : Bool := item.kind?.isNone && item.text = opener

def items : Item → List Item
  | .single _ => []
  | .group _ items _ => items

end Item

/-- A bracket that waits for its closer, with what stands in it so far in reverse. -/
structure Unclosed where
  opener : Token
  items : List Item

def closerOf (opener : String) : String :=
  if opener = "(" then ")"
  else if opener = "[" then "]"
  else if opener = "\x60" then "\x60"
  else "\x7d"

def opens (token : Token) : Bool :=
  token.kind = .mark && ["(", "[", "\x7b", "$\x7b", "\x60"].contains token.text

def closes (token : Token) : Bool :=
  token.kind = .mark && [")", "]", "\x7d", "\x60"].contains token.text

/-- Ends the innermost group; `found` holds the items outside all groups. -/
def endGroup (closer : Option Token) :
    List Unclosed → List Item → List Unclosed × List Item
  | [], found => ([], found)
  | [inner], found => ([], .group inner.opener inner.items.reverse closer :: found)
  | inner :: outer :: rest, found =>
    (⟨outer.opener, .group inner.opener inner.items.reverse closer :: outer.items⟩ :: rest, found)

def addItem (item : Item) : List Unclosed → List Item → List Unclosed × List Item
  | [], found => ([], item :: found)
  | inner :: rest, found => (⟨inner.opener, item :: inner.items⟩ :: rest, found)

/-- A closer ends every group inside the one it belongs to. -/
def closeWith (closer : Token) :
    List Unclosed → List Item → List Unclosed × List Item
  | [], found => ([], .single closer :: found)
  | [inner], found => endGroup (some closer) [inner] found
  | inner :: outer :: rest, found =>
    if closerOf inner.opener.text = closer.text then endGroup (some closer) (inner :: outer :: rest) found
    else
      closeWith closer
        (⟨outer.opener, .group inner.opener inner.items.reverse none :: outer.items⟩ :: rest) found
termination_by unclosed => unclosed.length

def belongs (closer : Token) (unclosed : List Unclosed) : Bool :=
  unclosed.any fun group => closerOf group.opener.text = closer.text

def endAll : List Unclosed → List Item → List Item
  | [], found => found.reverse
  | [inner], found => (.group inner.opener inner.items.reverse none :: found).reverse
  | inner :: outer :: rest, found =>
    endAll (⟨outer.opener, .group inner.opener inner.items.reverse none :: outer.items⟩ :: rest) found
termination_by unclosed => unclosed.length

/-- A backquote opens a template literal unless it ends the innermost group. -/
def isOpening (token : Token) (unclosed : List Unclosed) : Bool :=
  opens token && (token.text ≠ "\x60" || unclosed.head?.all (·.opener.text ≠ "\x60"))

def groupFrom : List Token → List Unclosed → List Item → List Item
  | [], unclosed, found => endAll unclosed found
  | token :: rest, unclosed, found =>
    if isOpening token unclosed then groupFrom rest (⟨token, []⟩ :: unclosed) found
    else
      let (unclosed, found) :=
        if closes token && belongs token unclosed then closeWith token unclosed found
        else addItem (.single token) unclosed found
      groupFrom rest unclosed found

/-- A closer that belongs to no bracket is an item like any other token. -/
def bracketed (tokens : List Token) : List Item :=
  groupFrom tokens [] []

end SeedNavigator.Script
