/-! The table from routes to the aliases their templates use, kept in ascending order of the
routes. -/
namespace SeedNavigator

structure Aliases where
  entries : List (String × String) := []
  deriving DecidableEq, Repr

namespace Aliases

def empty : Aliases := {}

def get? (table : Aliases) (route : String) : Option String :=
  (table.entries.find? (·.1 = route)).map (·.2)

def insertEntry (route as : String) : List (String × String) → List (String × String)
  | [] => [(route, as)]
  | entry :: rest =>
    if route < entry.1 then (route, as) :: entry :: rest
    else if route = entry.1 then (route, as) :: rest
    else entry :: insertEntry route as rest

/-- A route that is there already gets the new alias. -/
def insert (table : Aliases) (route as : String) : Aliases :=
  ⟨insertEntry route as table.entries⟩

def size (table : Aliases) : Nat :=
  table.entries.length

end Aliases

end SeedNavigator
