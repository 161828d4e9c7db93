import SeedNavigator.Descriptor.Strategy
import SeedNavigator.Text.Pieces

/-! The command line: a command with its options and one document or directory. Settings that concern
every command may stand before it or after it. -/
namespace SeedNavigator

inductive Action where
  | environment (root : String) (asJson : Bool)
  | toggle (document root : String) (languageId : Option String)
  | members (controller root : String) (asJson : Bool)
  | complete (view root : String) (offset : Nat) (asJson : Bool)
  deriving DecidableEq, Repr

/-- Settings that concern every command. -/
structure Settings where
  configFile : Option String := none
  strategy : Option Strategy := none
  verbosity : Nat := 0
  deriving DecidableEq, Repr

structure Invocation where
  settings : Settings
  action : Action
  deriving DecidableEq, Repr

inductive Request where
  | run (invocation : Invocation)
  | version
  | help
  deriving DecidableEq, Repr

namespace Arguments

inductive Command where
  | environment
  | toggle
  | members
  | complete
  deriving DecidableEq, Repr

def commandNamed? (name : String) : Option Command :=
  [("env", Command.environment), ("toggle", .toggle), ("members", .members),
    ("complete", .complete)].lookup name

inductive Flag where
  | config
  | strategy
  | verbose
  | json
  | root
  | languageId
  | offset
  | version
  | help
  deriving DecidableEq, Repr

def Flag.takesValue : Flag → Bool
  | .config | .strategy | .root | .languageId | .offset => true
  | .verbose | .json | .version | .help => false

/-- The flags that may stand before a command, or after the given one. -/
def flagsOf : Option Command → List Flag
  | none => [.config, .strategy, .verbose, .version, .help]
  | some .environment => [.config, .strategy, .verbose, .json, .help]
  | some .toggle => [.config, .strategy, .verbose, .root, .languageId, .help]
  | some .members => [.config, .strategy, .verbose, .root, .json, .help]
  | some .complete => [.config, .strategy, .verbose, .offset, .root, .json, .help]

def longFlag? (name : String) : Option Flag :=
  [("config", Flag.config), ("strategy", .strategy), ("verbose", .verbose), ("json", .json),
    ("root", .root), ("language-id", .languageId), ("offset", .offset), ("version", .version),
    ("help", .help)].lookup name

def shortFlag? (c : Char) : Option Flag :=
  [('c', Flag.config), ('v', .verbose), ('V', .version), ('h', .help)].lookup c

/-! ### Values -/

def maxOffset : Nat := UInt64.size - 1

/-- Digits, with a plus sign if one likes. -/
def offset? (text : String) : Option Nat :=
  let digits :=
    match text.toList with
    | '+' :: rest => rest
    | all => all
  if digits.isEmpty || !digits.all (·.isDigit) then none
  else
    let value := digits.foldl (fun n c => 10 * n + (c.toNat - 48)) 0
    if value ≤ maxOffset then some value else none

/-- Files and directories need a name. -/
def isAcceptable (flag : Flag) (value : String) : Bool :=
  match flag with
  | .config | .root => !value.isEmpty
  | .strategy => (Strategy.parse? value).isSome
  | .offset => (offset? value).isSome
  | _ => true

/-! ### Reading -/

structure Given where
  flag : Flag
  value : String
  /-- It stands behind the command. -/
  afterCommand : Bool

/-- What has been read. `given` is in reverse. -/
structure Progress where
  command : Option Command := none
  given : List Given := []
  document : Option String := none
  /-- A flag that waits for its value. -/
  due : Option Flag := none
  /-- From here on nothing is a flag. -/
  plain : Bool := false

/-- Reading ends early where the user asks for the version or for help, and where nothing fits. -/
inductive Stop where
  | version
  | help
  | misuse
  deriving DecidableEq, Repr

namespace Progress

def allows (p : Progress) (flag : Flag) : Bool :=
  (flagsOf p.command).contains flag

def has (p : Progress) (flag : Flag) : Bool :=
  p.given.any fun given => given.flag = flag && given.afterCommand = p.command.isSome

/-- Only the flag for more events may be repeated. -/
def give (p : Progress) (flag : Flag) (value : String) : Except Stop Progress :=
  if flag = .version then .error .version
  else if flag = .help then .error .help
  else if (flag ≠ .verbose && p.has flag) || !isAcceptable flag value then .error .misuse
  else .ok { p with given := ⟨flag, value, p.command.isSome⟩ :: p.given, due := none }

def long (p : Progress) (text : List Char) : Except Stop Progress :=
  let name := String.ofList (text.takeWhile (· ≠ '='))
  let rest := text.dropWhile (· ≠ '=')
  match longFlag? name with
  | none => .error .misuse
  | some flag =>
    if !p.allows flag then .error .misuse
    else
      match flag.takesValue, rest with
      | true, [] => .ok { p with due := some flag }
      | true, _ :: value => p.give flag (String.ofList value)
      | false, [] => p.give flag ""
      | false, _ :: _ => .error .misuse

/-- Flags of one letter stand together behind one dash; the last may be followed by its value. -/
def short (p : Progress) : List Char → Except Stop Progress
  | [] => .ok p
  | c :: rest =>
    match shortFlag? c with
    | none => .error .misuse
    | some flag =>
      if !p.allows flag then .error .misuse
      else if flag.takesValue then
        match rest with
        | [] => .ok { p with due := some flag }
        | '=' :: value => p.give flag (String.ofList value)
        | value => p.give flag (String.ofList value)
      else
        match p.give flag "" with
        | .ok p => p.short rest
        | .error stop => .error stop

/-- A word that is no flag: a command, or its document. -/
def word (p : Progress) (text : String) : Except Stop Progress :=
  match p.command with
  | some _ =>
    if p.document.isSome || text.isEmpty then .error .misuse
    else .ok { p with document := some text }
  | none =>
    if p.plain then .error .misuse
    else
      match commandNamed? text with
      | some command => .ok { p with command := some command }
      | none => .error (if text = "help" then .help else .misuse)

def argument (p : Progress) (text : String) : Except Stop Progress :=
  if p.plain then p.word text
  else
    match text.toList, p.due with
    | ['-', '-'], due => if due.isSome then .error .misuse else .ok { p with plain := true }
    | '-' :: '-' :: name, due => if due.isSome then .error .misuse else p.long name
    | '-' :: c :: letters, due => if due.isSome then .error .misuse else p.short (c :: letters)
    | _, some flag => p.give flag text
    | _, none => p.word text

/-- A setting behind the command replaces one before it. -/
def value? (p : Progress) (flag : Flag) : Option String :=
  let values := fun after =>
    (p.given.find? fun given => given.flag = flag && given.afterCommand = after).map (·.value)
  (values true).or (values false)

def count (p : Progress) (flag : Flag) : Nat :=
  let counted := fun after =>
    (p.given.filter fun given => given.flag = flag && given.afterCommand = after).length
  if counted true = 0 then counted false else counted true

def settings (p : Progress) : Settings where
  configFile := p.value? .config
  strategy := (p.value? .strategy).bind Strategy.parse?
  verbosity := p.count .verbose

def action? (p : Progress) : Option Action :=
  let root := (p.value? .root).getD "."
  let asJson := (p.value? .json).isSome
  match p.command with
  | none => none
  | some .environment => some (.environment (p.document.getD ".") asJson)
  | some .toggle => p.document.map fun document => .toggle document root (p.value? .languageId)
  | some .members => p.document.map fun document => .members document root asJson
  | some .complete => do
    let document ← p.document
    let offset ← (p.value? .offset).bind offset?
    some (.complete document root offset asJson)

def finish (p : Progress) : Option Request :=
  if p.due.isSome then none
  else p.action?.map fun action => .run ⟨p.settings, action⟩

end Progress

/-- What the user asks for; `none` if the arguments make no sense. -/
def parse? (arguments : List String) : Option Request :=
  match arguments.foldlM Progress.argument {} with
  | .ok progress => progress.finish
  | .error .version => some .version
  | .error .help => some .help
  | .error .misuse => none

end Arguments

end SeedNavigator
