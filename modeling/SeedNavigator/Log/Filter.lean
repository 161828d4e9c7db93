import SeedNavigator.Log.Event
import SeedNavigator.Text.Word

/-! Which events are shown. A filter is a list of directives such as `info` or `atse=debug`; of those
that fit an event, the one with the longest target decides. -/
namespace SeedNavigator

def Level.rank : Level → Nat
  | .error => 1
  | .warn => 2
  | .info => 3
  | .debug => 4

/-- The name of an area in directives. -/
def Area.target : Area → String
  | .commands => "atse"
  | .settings => "atse::core::models"
  | .candidates => "atse::core::walker"
  | .scan => "atse::core::resolver"
  | .recognition => "atse::core::descriptor"
  | .navigation => "atse::core::navigator"
  | .completion => "atse::core::completion"

structure Directive where
  /-- The beginning of the targets it is about; `none` for all of them. -/
  target : Option String
  /-- The highest rank of a level that it lets through. -/
  rank : Nat
  /-- It is about events inside of spans, of which there are none. -/
  spanned : Bool := false
  deriving DecidableEq, Repr

namespace Directive

def everything : Nat := 5

/-- Levels by name, in any case of letters, or by number. -/
def rank? (level : String) : Option Nat :=
  let names := ["off", "error", "warn", "info", "debug", "trace"]
  match names.idxOf? (level.map Char.toLower) with
  | some rank => some rank
  | none => ["0", "1", "2", "3", "4", "5"].idxOf? level

def isTargetChar (c : Char) : Bool :=
  Text.isWord c || c = ':' || c = '-'

/-- A target, a span in brackets, or one after the other; then what follows. -/
def subject? (text : List Char) : Option (Option String × Bool × List Char) :=
  let target := text.takeWhile isTargetChar
  let named := if target.isEmpty then none else some (String.ofList target)
  match text.dropWhile isTargetChar with
  | '[' :: rest =>
    match rest.dropWhile (· ≠ ']') with
    | ']' :: rest => some (named, true, rest)
    | _ => none
  | rest => if target.isEmpty then none else some (named, false, rest)

/-- A level alone is about all targets, a target alone lets everything through. -/
def parse? (text : String) : Option Directive :=
  match rank? text with
  | some rank => some ⟨none, rank, false⟩
  | none =>
    match subject? text.toList with
    | none => none
    | some (target, spanned, []) => some ⟨target, everything, spanned⟩
    | some (target, spanned, '=' :: level) =>
      if level.isEmpty then some ⟨target, everything, spanned⟩
      else (rank? (String.ofList level)).map fun rank => ⟨target, rank, spanned⟩
    | some _ => none

def fits (directive : Directive) (event : Event) : Bool :=
  !directive.spanned &&
    directive.target.all fun target =>
      (Text.afterPrefix? target.toList event.area.target.toList).isSome

def length (directive : Directive) : Nat :=
  (directive.target.map (·.length + 1)).getD 0

end Directive

abbrev Filter := List Directive

namespace Filter

/-- The parts of a filter text that say nothing are passed over. -/
def parts (text : String) : List String :=
  ((Text.pieces ',' text.toList).map String.ofList).filter fun part => !part.isEmpty

/-- Without a directive only errors are shown. -/
def parse (text : String) : Filter :=
  match (parts text).filterMap Directive.parse? with
  | [] => [⟨none, Level.error.rank, false⟩]
  | directives => directives

/-- The parts that are no directives. -/
def rejected (text : String) : List String :=
  (parts text).filter fun part => (Directive.parse? part).isNone

def ofVerbosity (verbosity : Nat) : Filter :=
  let level : Level :=
    match verbosity with
    | 0 => .warn
    | 1 => .info
    | _ => .debug
  [⟨some "atse", level.rank, false⟩]

/-- The directive with the longest target, of equal ones the last. -/
def longest : Option Directive → Filter → Option Directive
  | best, [] => best
  | none, directive :: rest => longest (some directive) rest
  | some best, directive :: rest =>
    longest (some (if best.length ≤ directive.length then directive else best)) rest

def shows (filter : Filter) (event : Event) : Bool :=
  (longest none (filter.filter (·.fits event))).any fun directive =>
    event.level.rank ≤ directive.rank

end Filter

end SeedNavigator
