/-! Globs, the patterns that select candidate files: `*` stands for any part of a name, `?` for one
byte of it, `**` for any number of directories, brackets for one of some characters and braces for one
of some patterns. A backslash takes the meaning from what follows it. -/
namespace SeedNavigator

namespace Glob

inductive Piece where
  | char (c : Char)
  /-- One byte that is no slash. -/
  | any
  /-- Any number of bytes that are no slashes. -/
  | run
  /-- Any directories before a name, or none. -/
  | leading
  /-- A slash, or any directories between two slashes. -/
  | between
  /-- A slash and anything after it. -/
  | trailing
  | oneOf (negated : Bool) (ranges : List (Char × Char))
  | alternatives (choices : List (List Piece))

inductive Fault where
  | unclosedClass
  | invalidRange (first last : Char)
  | unopenedGroup
  | unclosedGroup
  | danglingEscape
  deriving DecidableEq, Repr

def quoted (c : Char) : String :=
  String.ofList ['\'', c, '\'']

def Fault.message : Fault → String
  | .unclosedClass => "unclosed character class; missing " ++ quoted ']'
  | .invalidRange first last => "invalid range; " ++ quoted first ++ " > " ++ quoted last
  | .unopenedGroup =>
    "unopened alternate group; missing '\x7b' (maybe escape '\x7d' with '[\x7d]'?)"
  | .unclosedGroup =>
    "unclosed alternate group; missing '\x7d' (maybe escape '\x7b' with '[\x7b]'?)"
  | .danglingEscape => "dangling " ++ quoted '\\'

/-! ### Reading -/

/-- A character class that is still open, its ranges in reverse. -/
structure OpenClass where
  negated : Bool := false
  ranges : List (Char × Char) := []
  /-- A dash waits for the end of its range. -/
  dashed : Bool := false

namespace OpenClass

def negates (cls : OpenClass) (c : Char) : Bool :=
  cls.ranges.isEmpty && !cls.negated && (c = '!' || c = '^')

/-- A closing bracket that comes first is a member. -/
def closes (cls : OpenClass) (c : Char) : Bool :=
  c = ']' && !cls.ranges.isEmpty

def take (cls : OpenClass) (c : Char) : Except Fault OpenClass :=
  if cls.negates c then .ok { cls with negated := true }
  else
    match cls.ranges with
    | [] => .ok { cls with ranges := [(c, c)] }
    | (low, high) :: others =>
      if cls.dashed then
        if c < low then .error (.invalidRange low c)
        else .ok { cls with ranges := (low, c) :: others, dashed := false }
      else if c = '-' then .ok { cls with dashed := true }
      else .ok { cls with ranges := (c, c) :: (low, high) :: others }

/-- A dash that comes last is a member. -/
def piece (cls : OpenClass) : Piece :=
  .oneOf cls.negated (if cls.dashed then ('-', '-') :: cls.ranges else cls.ranges).reverse

end OpenClass

/-- A group of alternatives, or the whole glob, as far as it has been read. All is in reverse. -/
structure Level where
  choices : List (List Piece) := []
  pieces : List Piece := []

structure Progress where
  inner : Level := {}
  outer : List Level := []

namespace Progress

def isGrouped (p : Progress) : Bool :=
  !p.outer.isEmpty

def push (p : Progress) (piece : Piece) : Progress :=
  { p with inner := { p.inner with pieces := piece :: p.inner.pieces } }

/-- Two stars take the place of the slash before them; after others of their kind they add
nothing. -/
def pushDirectories (p : Progress) (piece : Piece) : Progress :=
  let pieces :=
    match p.inner.pieces with
    | .leading :: before => .leading :: before
    | .trailing :: before => .trailing :: before
    | _ :: before => piece :: before
    | [] => [piece]
  { p with inner := { p.inner with pieces } }

def openGroup (p : Progress) : Progress :=
  ⟨{}, p.inner :: p.outer⟩

def nextChoice (p : Progress) : Progress :=
  { p with inner := ⟨p.inner.pieces.reverse :: p.inner.choices, []⟩ }

def closeGroup (p : Progress) : Except Fault Progress :=
  match p.outer with
  | [] => .error .unopenedGroup
  | level :: outer =>
    let choices := (p.inner.pieces.reverse :: p.inner.choices).reverse
    .ok (Progress.push ⟨level, outer⟩ (.alternatives choices))

def finish (p : Progress) : Except Fault (List Piece) :=
  if p.isGrouped then .error .unclosedGroup else .ok p.inner.pieces.reverse

/-- Whether two stars stand where a directory can begin. -/
def atDirectory (p : Progress) (before : Option Char) : Bool :=
  before = some '/' || (p.isGrouped && (before = some ',' || before = some '\x7b'))

/-- Whether a choice of the innermost group ends before the rest. -/
def choiceEnds (p : Progress) (rest : List Char) : Bool :=
  p.isGrouped && (rest.head? = some ',' || rest.head? = some '\x7d')

end Progress

/-- `before` is the character that was read last. -/
def parseFrom : (before : Option Char) → Option OpenClass → Progress → List Char →
    Except Fault (List Piece)
  | _, some _, _, [] => .error .unclosedClass
  | _, none, p, [] => p.finish
  | _, some cls, p, c :: rest =>
    if cls.closes c then parseFrom (some c) none (p.push cls.piece) rest
    else
      match cls.take c with
      | .ok cls => parseFrom (some c) (some cls) p rest
      | .error fault => .error fault
  | before, none, p, '*' :: '*' :: rest =>
    if p.inner.pieces.isEmpty then
      match rest with
      | [] => (p.push .leading).finish
      | '/' :: rest => parseFrom (some '/') none (p.push .leading) rest
      | c :: rest => parseFrom (some '*') none ((p.push .run).push .run) (c :: rest)
    else if !p.atDirectory before then
      parseFrom (some '*') none ((p.push .run).push .run) rest
    else if p.choiceEnds rest then
      parseFrom (some '*') none (p.pushDirectories .trailing) rest
    else
      match rest with
      | [] => (p.pushDirectories .trailing).finish
      | '/' :: rest => parseFrom (some '/') none (p.pushDirectories .between) rest
      | c :: rest => parseFrom (some '*') none ((p.push .run).push .run) (c :: rest)
  | _, none, _, ['\\'] => .error .danglingEscape
  | _, none, p, '\\' :: c :: rest => parseFrom (some c) none (p.push (.char c)) rest
  | _, none, p, c :: rest =>
    if c = '*' then parseFrom (some c) none (p.push .run) rest
    else if c = '?' then parseFrom (some c) none (p.push .any) rest
    else if c = '[' then parseFrom (some c) (some {}) p rest
    else if c = '\x7b' then parseFrom (some c) none p.openGroup rest
    else if c = '\x7d' then
      match p.closeGroup with
      | .ok p => parseFrom (some c) none p rest
      | .error fault => .error fault
    else if c = ',' && p.isGrouped then parseFrom (some c) none p.nextChoice rest
    else parseFrom (some c) none (p.push (.char c)) rest

end Glob

/-- A glob is the run of its pieces. -/
structure Glob where
  pieces : List Glob.Piece

namespace Glob

def parse (text : String) : Except Fault Glob :=
  match parseFrom none none {} text.toList with
  | .ok pieces => .ok ⟨pieces⟩
  | .error fault => .error fault

/-- The directory of a glob's literal beginning; empty if there is none. -/
def baseChars (text : List Char) : List Char :=
  let literal := text.takeWhile fun c => c ≠ '*' && c ≠ '?' && c ≠ '[' && c ≠ '\x7b'
  ((literal.reverse.dropWhile (· ≠ '/')).drop 1).reverse

def base (text : String) : String :=
  String.ofList (baseChars text.toList)

end Glob

end SeedNavigator
