import SeedNavigator.Proofs.Files.Tree

/-! What a search below a directory finds. Every file is found once, by its way down from the directory,
unless a tool directory lies on this way. -/
namespace SeedNavigator

open Entry

variable {name : String} {entry : Entry} {entries rest : Directory} {way : List String} {content : ByteArray}

namespace Entry

theorem IsNamed.head (named : IsNamed (.directory ((name, entry) :: rest))) : entry.IsNamed := by
  cases named with
  | directory _ _ below => exact below entry (by simp)

theorem IsNamed.tail (named : IsNamed (.directory ((name, entry) :: rest))) : IsNamed (.directory rest) := by
  cases named with
  | directory distinct proper below =>
    exact .directory (List.nodup_cons.mp distinct).2 (fun name member => proper name (by simp_all))
      fun entry member => below entry (by simp_all)

end Entry

/-- No tool directory stands on the way to what is at its end. -/
def Listing.IsClear (way : List String) : Prop :=
  ∀ name ∈ way.dropLast, name ∉ toolDirectories

namespace Directory

/-- The ways to the files that a search finds, with what the files hold, in the order of the listing. -/
def searched : Directory → List (List String × ByteArray)
  | [] => []
  | (name, .file content) :: rest => ([name], content) :: searched rest
  | (_, .link _) :: rest => searched rest
  | (name, .directory entries) :: rest =>
    (if Listing.isToolDirectory name then []
    else (searched entries).map fun (way, content) => (name :: way, content)) ++ searched rest

end Directory

end SeedNavigator
