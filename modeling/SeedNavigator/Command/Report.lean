import SeedNavigator.Error
import SeedNavigator.Log.Event
import SeedNavigator.Stop

/-! What a command leaves behind for its user. -/
namespace SeedNavigator.Command

/-- Why a command fails: a text, and the texts of its causes from the closest one inwards. -/
structure Failure where
  text : String
  causes : List String := []
  deriving DecidableEq, Repr

namespace Failure

def ofError (error : Error) : Failure :=
  ⟨error.message, error.causes⟩

def inContext (context : String) (failure : Failure) : Failure :=
  ⟨context, failure.text :: failure.causes⟩

/-- All texts on one line. -/
def line (failure : Failure) : String :=
  "Error: " ++ ": ".intercalate (failure.text :: failure.causes)

/-- A text behind a lead of its own; its further lines stand as far to the right. -/
def item (lead : String) (text : String) : String :=
  let margin := "\n" ++ "".pushn ' ' lead.length
  lead ++ margin.intercalate ((Text.pieces '\n' text.toList).map String.ofList)

/-- The number of a cause, in a column of its own. -/
def numberLead (number : Nat) : String :=
  let digits := toString number
  "".pushn ' ' (5 - digits.length) ++ digits ++ ": "

def numbered (number : Nat) : List String → List String
  | [] => []
  | cause :: rest => item (numberLead number) cause :: numbered (number + 1) rest

/-- The text with a list of the causes below it, numbered if there are several. -/
def details (failure : Failure) : String :=
  let listed :=
    match failure.causes with
    | [] => []
    | [cause] => [item "    " cause]
    | causes => numbered 0 causes
  "\n".intercalate (failure.text :: (if listed.isEmpty then [] else "" :: "Caused by:" :: listed))

end Failure

structure Report where
  /-- Zero for success, one for failure, two for arguments that make no sense, and what the language gives
  a program that breaks down. -/
  code : Nat := 0
  output : String := ""
  /-- What there is to say besides the output. -/
  notes : List String := []
  events : List Event := []
  deriving DecidableEq, Repr

namespace Report

def lines (lines : List String) : Report :=
  { output := String.join (lines.map (· ++ "\n")) }

def failed (note : String) : Report :=
  { code := 1, notes := [note] }

/-- A failure ends in one line; its details are an event. -/
def ofFailure (failure : Failure) : Report :=
  { failed failure.line with events := [.debug .commands failure.details] }

/-- What the language says of a breakdown is not worded here. -/
def crashed : Report :=
  { code := 101 }

def ofStop : Stop Failure → Report
  | .failed failure => ofFailure failure
  | .crashed _ => crashed

end Report

end SeedNavigator.Command
