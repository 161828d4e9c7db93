import SeedNavigator.Stop

/-! The two descriptors a source file can hold: the base paths of the application, and the aliases
of its routes. Both are kept exactly as they are written in the source. -/
namespace SeedNavigator

structure MainDescriptor where
  controllers : String
  views : String
  deriving DecidableEq, Repr

structure Route where
  path : String
  as : String
  deriving DecidableEq, Repr

/-- What a candidate file turned out to be. -/
inductive Recognized where
  | main (descriptor : MainDescriptor)
  | routes (routes : List Route)
  | nothing
  deriving DecidableEq, Repr

namespace Recognized

def ofRoutes (routes : List Route) : Recognized :=
  if routes.isEmpty then .nothing else .routes routes

def of (main : Option MainDescriptor) (routes : List Route) : Recognized :=
  match main with
  | some descriptor => .main descriptor
  | none => .ofRoutes routes

/-- A file with a main descriptor is not searched for routes. -/
def search (main : Except Crash (Option MainDescriptor)) (routes : Except Crash (List Route)) :
    Except Crash Recognized := do
  match ← main with
  | some descriptor => return .main descriptor
  | none => return .ofRoutes (← routes)

end Recognized

namespace Descriptor

/-- The class that holds the base paths, and its two fields. -/
def appClass : String := "AngularApp"
def controllersField : String := "controllersBasePath"
def viewsField : String := "viewsBasePath"

end Descriptor

end SeedNavigator
