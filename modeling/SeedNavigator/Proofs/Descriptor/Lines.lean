import SeedNavigator.Proofs.Descriptor.Tables
import SeedNavigator.Proofs.Text.Pieces

/-! A table of routes with each object on a line of its own, which is read as it is written. -/
namespace SeedNavigator.Descriptor.Textual

open SeedNavigator.Text

/-- A line of a table: one with an object and the text around it, or any other without the names. -/
inductive Line where
  | holding (object : Object) (tail : List Char) (unnamed : Unnamed tail)
      (line : '\n' ∉ object.first.text ++ object.second.text ++ tail)
  | other (text : List Char) (unnamed : Unnamed text)

namespace Line

def text : Line → List Char
  | holding object tail _ _ => object.first.text ++ object.second.text ++ tail
  | other text _ => text

def route? : Line → Option Route
  | holding object _ _ _ => some object.route
  | other _ _ => none

end Line

/-- The text behind a line. -/
def IsNextLine (rest : List Char) : Prop := rest = [] ∨ ∃ more, rest = '\n' :: more

namespace IsNextLine

variable {rest : List Char}

theorem stops (next : IsNextLine rest) : Stops rest := by
  rcases next with rfl | ⟨more, rfl⟩
  · exact stops_nil
  · exact stops_newline more

theorem lastOnLine_eq (next : IsNextLine rest) (key : Key) (best : Option (List Char × List Char)) :
    lastOnLine key.name rest best = best := by
  rcases next with rfl | ⟨more, rfl⟩
  · rfl
  · simp [lastOnLine]

end IsNextLine

/-- A line gives its own route and no other. -/
theorem routesIn_line (line : Line) {rest : List Char} (next : IsNextLine rest) :
    routesIn (line.text ++ rest) = line.route?.toList ++ routesIn rest := by
  cases line with
  | other text unnamed => exact routesIn_skip (silent_of_unnamed unnamed next.stops)
  | holding object tail unnamed line =>
    have silent : Silent tail rest := silent_of_unnamed unnamed next.stops
    have parts : Line.text (.holding object tail unnamed line) ++ rest = object.first.gap ++
        (object.first.property ++ (object.second.gap ++ (object.second.property ++ (tail ++ rest)))) := by
      simp [Line.text, Entry.text]
    obtain ⟨-, ⟨gap, body⟩, ended⟩ : '\n' ∉ object.first.text ∧
        ('\n' ∉ object.second.gap ∧ '\n' ∉ object.second.body) ∧ '\n' ∉ tail := by
      simpa [newline_mem_text, not_or] using line
    have joined : lastOnLine object.first.key.other.name
        (object.second.gap ++ (object.second.property ++ (tail ++ rest))) none =
          some (object.second.value, tail ++ rest) := by
      rw [lastOnLine_skip (silent_gap _ _), if_neg gap, Entry.lastOnLine_property, if_neg body,
        if_pos object.paired, lastOnLine_skip silent, if_neg ended, next.lastOnLine_eq]
      rfl
    rw [parts, routesIn_skip (silent_gap _ _), object.first.routesIn_property_of_some joined,
      routesIn_skip silent]
    rfl

/-- A table with each object on a line of its own is read as it is written, in order and with repetitions. -/
theorem routes_of_lines (lines : List Line) :
    routes (String.ofList (glue '\n' (lines.map Line.text))) = lines.filterMap Line.route? := by
  have found : routesIn (glue '\n' (lines.map Line.text)) = lines.filterMap Line.route? := by
    induction lines with
    | nil => rfl
    | cons line lines ih =>
      have split : (line :: lines).filterMap Line.route? = line.route?.toList ++ lines.filterMap Line.route? := by
        cases found : line.route? <;> simp [found]
      rw [split, ← ih]
      cases lines with
      | nil =>
        have last := routesIn_line line (.inl rfl)
        rwa [List.append_nil] at last
      | cons second lines =>
        have newline (rest : List Char) : Silent ['\n'] rest := silent_singleton Key.notMem_newline rest
        rw [List.map_cons, glue_cons _ (by simp), routesIn_line line (.inr ⟨_, rfl⟩), ← List.singleton_append,
          routesIn_skip (newline _)]
  rw [routes, String.toList_ofList]
  exact found

/-- The properties may come in another order on each line. -/
example : routes "path: \"users\", controllerAs: \"vm\"\ncontrollerAs: \"vm\", path: \"home\"" =
    [⟨"users", "vm"⟩, ⟨"home", "vm"⟩] := by
  decide +kernel

end SeedNavigator.Descriptor.Textual
