import Mathlib
import SeedNavigator.Proofs.Environment.Listing
import SeedNavigator.Proofs.Path.Join
import SeedNavigator.Proofs.Project.Scan
import SeedNavigator.Proofs.Text.Order

/-! The candidates of a scan, said without the search for them: the files below the start directory that the
glob matches and that no tool directory hides, each of them once, by the bytes of their relative paths. The
order in which directories list their entries does not matter. -/
namespace SeedNavigator

open SeedNavigator.Path SeedNavigator.Text SeedNavigator.Entry

variable {tree other : FileTree} {root text base : String} {glob : Glob} {candidate : Candidate}
  {entries : Directory}

/-- A relative path without empty segments, points and ways up; that of the directory itself is empty. -/
def Path.IsPlain (path : String) : Prop :=
  path = "" ∨ ∀ segment ∈ segments path, segment ≠ "" ∧ segment ≠ "." ∧ segment ≠ ".."

instance {path : String} : Decidable (IsPlain path) := inferInstanceAs (Decidable (_ ∨ _))

namespace Candidate

/-- A file below the start directory, with the path to read it from and the one that the glob matches. -/
def found (root text : String) (way : List String) (content : ByteArray) : Candidate :=
  ⟨way.foldl join (startDirectory root text), way.foldl join (Glob.base text), content.size⟩

/-- The candidate is a regular file that the glob matches. From the start directory on, no link and no tool
directory lies on the way to it. -/
def IsSelected (tree : FileTree) (root text : String) (glob : Glob) (candidate : Candidate) : Prop :=
  ∃ entries way content, tree.entry? (startDirectory root text) = .ok (.directory entries) ∧
    at? (.directory entries) way = some (.file content) ∧ Listing.IsClear way ∧
    candidate = found root text way content ∧ glob.accepts candidate.relative = true

end Candidate

namespace Candidate

/-- The candidates as the search finds them. -/
def searched (root text : String) (glob : Glob) (entries : Directory) : List Candidate :=
  ((Directory.searched entries).map fun file => found root text file.1 file.2).filter
    fun candidate => glob.accepts candidate.relative

/-- Each candidate once, by the bytes of its relative path. -/
structure Enumerates (tree : FileTree) (root text : String) (glob : Glob) (candidates : List Candidate) :
    Prop where
  exact : ∀ candidate, candidate ∈ candidates ↔ IsSelected tree root text glob candidate
  ascending : candidates.Pairwise fun a b => a.relative.toUTF8.toList < b.relative.toUTF8.toList

theorem Enumerates.nodup {candidates : List Candidate}
    (enumerates : Enumerates tree root text glob candidates) : candidates.Nodup := by
  refine enumerates.ascending.imp fun {a b} less => ?_
  rintro rfl
  exact List.lt_irrefl _ less

theorem Enumerates.unique {candidates others : List Candidate}
    (enumerates : Enumerates tree root text glob candidates)
    (again : Enumerates tree root text glob others) : candidates = others := by
  have perm : candidates.Perm others :=
    (List.perm_ext_iff_of_nodup enumerates.nodup again.nodup).mpr fun candidate =>
      (enumerates.exact candidate).trans (again.exact candidate).symm
  refine perm.eq_of_pairwise (fun a b _ _ less more => ?_) enumerates.ascending again.ascending
  exact (List.lt_asymm less more).elim

end Candidate

namespace Project

open Work Candidate

end Project

end SeedNavigator
