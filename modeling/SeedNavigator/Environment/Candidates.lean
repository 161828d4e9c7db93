import SeedNavigator.Environment.Listing
import SeedNavigator.Glob.Match
import SeedNavigator.Path.Normal

/-! The files that a glob selects for the scan. -/
namespace SeedNavigator

structure Candidate where
  path : String
  /-- The path below the root of the project. -/
  relative : String
  size : Nat
  deriving DecidableEq, Repr

namespace Candidate

/-- Where the search for a glob's files starts. -/
def startDirectory (root glob : String) : String :=
  Path.join root (Glob.base glob)

def ofFile (root : String) (file : String × Nat) : Candidate :=
  ⟨file.1, Path.withSlashes (Path.relativeTo root file.1), file.2⟩

/-- Ascending by the bytes of the relative paths, whatever the order of the listing. -/
def sorted (candidates : List Candidate) : List Candidate :=
  candidates.mergeSort fun a b => !(b.relative < a.relative)

/-- The candidates among what is listed below the start directory. -/
def select (root : String) (glob : Glob) (start : String) (listing : Listing) : List Candidate :=
  sorted (((listing.files start).map (ofFile root)).filter fun candidate =>
    glob.accepts candidate.relative)

end Candidate

end SeedNavigator
