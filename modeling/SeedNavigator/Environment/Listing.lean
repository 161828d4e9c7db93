import SeedNavigator.Path.Join

/-! What lies below a directory, in the order in which the file system lists it. -/
namespace SeedNavigator

inductive Listing where
  | file (size : Nat)
  | directory (entries : List (String × Listing))
  /-- Links and everything else that is not searched. -/
  | other

namespace Listing

/-- Directories of tools, which hold no sources of the project. -/
def toolDirectories : List String :=
  [".git", "node_modules", "bower_components", "typings", "dist"]

def isToolDirectory (name : String) : Bool :=
  toolDirectories.contains name

mutual

/-- The files in a directory and below, with their paths and sizes. The directory itself is searched
whatever its name. -/
def files (path : String) : Listing → List (String × Nat)
  | .file _ | .other => []
  | .directory entries => filesIn path entries

def filesIn (path : String) : List (String × Listing) → List (String × Nat)
  | [] => []
  | (name, .file size) :: rest => (Path.join path name, size) :: filesIn path rest
  | (_, .other) :: rest => filesIn path rest
  | (name, .directory entries) :: rest =>
    (if isToolDirectory name then [] else filesIn (Path.join path name) entries) ++
      filesIn path rest

end

end Listing

end SeedNavigator
