import Mathlib.Data.List.Forall2
import SeedNavigator.Files.Tree
import SeedNavigator.Proofs.Path.NormalForm

/-! Trees of files without the order in which directories list their entries. A path leads to the same place
in two trees that hold the same, and all names on the way are names that the tree has given. -/
namespace SeedNavigator

namespace Entry

/-- The entry at the end of a way down. Links are not followed. -/
def at? : Entry → List String → Option Entry
  | entry, [] => some entry
  | .directory entries, name :: way => (entries.lookup name).bind (·.at? way)
  | .file _, _ :: _ | .link _, _ :: _ => none

/-- The entries of a directory have names of their own, with which a path can spell them. -/
inductive IsNamed : Entry → Prop where
  | file (content : ByteArray) : IsNamed (.file content)
  | link (target : String) : IsNamed (.link target)
  | directory {entries : Directory} (distinct : (entries.map Prod.fst).Nodup)
      (proper : ∀ name ∈ entries.map Prod.fst, Path.IsProper name.toList)
      (below : ∀ entry ∈ entries.map Prod.snd, IsNamed entry) : IsNamed (.directory entries)

/-- What an entry is by itself, without what lies below it. -/
inductive Node where
  | file (content : ByteArray)
  | directory
  | link (target : String)

def node : Entry → Node
  | .file content => .file content
  | .directory _ => .directory
  | .link target => .link target

/-- The same things stand at the same ways, in whatever order they are listed. -/
def Same (entry other : Entry) : Prop :=
  ∀ way, (entry.at? way).map node = (other.at? way).map node

variable {entry other : Entry} {entries others : Directory} {name : String}

theorem eq_file_of_node {content : ByteArray} (h : entry.node = .file content) : entry = .file content := by
  cases entry with
  | file => exact congrArg file (Node.file.inj h)
  | directory | link => contradiction

theorem eq_link_of_node {target : String} (h : entry.node = .link target) : entry = .link target := by
  cases entry with
  | link => exact congrArg link (Node.link.inj h)
  | file | directory => contradiction

theorem exists_of_node_directory (h : entry.node = .directory) : ∃ entries, entry = .directory entries := by
  cases entry with
  | directory entries => exact ⟨entries, rfl⟩
  | file | link => contradiction

theorem Same.node_eq (same : Same entry other) : other.node = entry.node := by
  simpa [at?] using (same []).symm

theorem Same.symm (same : Same entry other) : Same other entry :=
  fun way => (same way).symm

theorem Same.exists_lookup (same : Same (.directory entries) (.directory others))
    (found : entries.lookup name = some entry) :
    ∃ other, others.lookup name = some other ∧ Same entry other := by
  have here := same [name]
  have below (way : List String) := same (name :: way)
  simp only [at?, found] at here below
  cases found' : others.lookup name with
  | none => simp [found'] at here
  | some other => exact ⟨other, rfl, fun way => by simpa [found'] using below way⟩

theorem Same.lookup_none (same : Same (.directory entries) (.directory others))
    (missing : entries.lookup name = none) : others.lookup name = none := by
  cases found : others.lookup name with
  | none => rfl
  | some other =>
    obtain ⟨entry, found', -⟩ := same.symm.exists_lookup found
    rw [missing] at found'
    contradiction

theorem IsNamed.nil : IsNamed (.directory []) :=
  .directory .nil (by simp) (by simp)

theorem IsNamed.cons (proper : Path.IsProper name.toList) (fresh : name ∉ entries.map Prod.fst)
    (below : entry.IsNamed) (rest : IsNamed (.directory entries)) :
    IsNamed (.directory ((name, entry) :: entries)) := by
  cases rest with
  | directory distinct others inside =>
    exact .directory (List.nodup_cons.mpr ⟨fresh, distinct⟩) (List.forall_mem_cons.mpr ⟨proper, others⟩)
      (List.forall_mem_cons.mpr ⟨below, inside⟩)

theorem lookup_eq_some_iff_mem (distinct : (entries.map Prod.fst).Nodup) :
    entries.lookup name = some entry ↔ (name, entry) ∈ entries := by
  induction entries with
  | nil => simp
  | cons pair entries ih =>
    obtain ⟨first, own⟩ := pair
    obtain ⟨fresh, distinct⟩ := List.nodup_cons.mp distinct
    by_cases same : name = first
    · subst same
      have once : (name, entry) ∉ entries := fun member =>
        fresh (List.mem_map.mpr ⟨(name, entry), member, rfl⟩)
      simp [once, eq_comm]
    · simp [List.lookup_cons, beq_false_of_ne same, same, ih distinct]

theorem IsNamed.lookup (named : IsNamed (.directory entries)) (found : entries.lookup name = some entry) :
    entry.IsNamed ∧ Path.IsProper name.toList := by
  cases named with
  | directory distinct proper below =>
    have member := (lookup_eq_some_iff_mem distinct).mp found
    exact ⟨below entry (List.mem_map_of_mem member), proper name (List.mem_map_of_mem member)⟩

end Entry

namespace FileTree

open Entry

/-- The same answer, but for the order of what a directory lists. -/
inductive SameAnswer : Except ReadFault Entry → Except ReadFault Entry → Prop where
  | ok {entry other : Entry} (same : Same entry other) : SameAnswer (.ok entry) (.ok other)
  | error (fault : ReadFault) : SameAnswer (.error fault) (.error fault)

abbrev SameDirectory (entries others : Directory) : Prop :=
  Same (.directory entries) (.directory others)

variable {root inner root' inner' : Directory} {outer outer' : List Directory} {links : Nat}
  {way : List String} {entry : Entry}

theorem follow_idle {segment : String} (idle : isIdleSegment segment = true) (rest : List String) :
    follow root links inner outer (segment :: rest) = follow root links inner outer rest := by
  rw [follow.eq_def]
  simp only [idle, if_true]

theorem follow_up (busy : ¬isIdleSegment ".." = true) (rest : List String) :
    follow root links inner outer (".." :: rest) =
      match outer with
      | [] => follow root links inner [] rest
      | parent :: outer => follow root links parent outer rest := by
  rw [follow.eq_def]
  simp only [busy, if_true]
  rfl

theorem follow_name {segment : String} (busy : ¬isIdleSegment segment = true) (down : segment ≠ "..")
    (rest : List String) : follow root links inner outer (segment :: rest) =
      match inner.lookup segment with
      | none => .error .missing
      | some (.directory entries) => follow root links entries (inner :: outer) rest
      | some (.file content) => if rest.isEmpty then .ok (.file content) else .error .notDirectory
      | some (.link target) =>
        if links = 0 then .error .tooManyLinks
        else if target.startsWith "/" then follow root (links - 1) root [] (segments target ++ rest)
        else follow root (links - 1) inner outer (segments target ++ rest) := by
  rw [follow.eq_def]
  simp only [busy, down, if_false]
  rfl

/-- A path leads to the same place, whatever the order of the listings on the way. -/
theorem follow_same (top : SameDirectory root root') (place : SameDirectory inner inner')
    (parents : List.Forall₂ SameDirectory outer outer') :
    SameAnswer (follow root links inner outer way) (follow root' links inner' outer' way) := by
  fun_induction follow root links inner outer way generalizing inner' outer' with
  | case1 =>
    rw [follow]
    exact .ok place
  | case2 _ _ _ _ _ idle ih =>
    rw [follow_idle idle]
    exact ih place parents
  | case3 _ _ _ busy ih =>
    rw [follow_up busy, List.forall₂_nil_left_iff.mp parents]
    exact ih place .nil
  | case4 _ _ _ _ _ busy ih =>
    obtain ⟨parent', outer', above, further, rfl⟩ := List.forall₂_cons_left_iff.mp parents
    rw [follow_up busy]
    exact ih above further
  | case5 _ _ _ _ _ busy down missing =>
    rw [follow_name busy down, place.lookup_none missing]
    exact .error _
  | case6 _ _ _ _ _ busy down _ found ih =>
    obtain ⟨other, found', alike⟩ := place.exists_lookup found
    obtain ⟨inside', rfl⟩ := exists_of_node_directory alike.node_eq
    rw [follow_name busy down, found']
    exact ih alike (.cons place parents)
  | case7 _ _ _ _ _ busy down _ found last =>
    obtain ⟨other, found', alike⟩ := place.exists_lookup found
    rw [follow_name busy down, found', eq_file_of_node alike.node_eq]
    simp only [last, if_true]
    exact .ok fun _ => rfl
  | case8 _ _ _ _ _ busy down _ found last =>
    obtain ⟨other, found', alike⟩ := place.exists_lookup found
    rw [follow_name busy down, found', eq_file_of_node alike.node_eq]
    simp only [last]
    exact .error _
  | case9 _ _ _ _ busy down _ found =>
    obtain ⟨other, found', alike⟩ := place.exists_lookup found
    rw [follow_name busy down, found', eq_link_of_node alike.node_eq]
    exact .error _
  | case10 _ _ _ _ _ busy down _ found left absolute ih =>
    obtain ⟨other, found', alike⟩ := place.exists_lookup found
    rw [follow_name busy down, found', eq_link_of_node alike.node_eq]
    simp only [left, absolute, if_true, if_false]
    exact ih top .nil
  | case11 _ _ _ _ _ busy down _ found left absolute ih =>
    obtain ⟨other, found', alike⟩ := place.exists_lookup found
    rw [follow_name busy down, found', eq_link_of_node alike.node_eq]
    simp only [left, absolute, if_false]
    exact ih place parents

variable {tree other : FileTree} {path : String}

/-- Two trees that hold the same, whatever the order in which their directories list it. -/
structure Same (tree other : FileTree) : Prop where
  entries : SameDirectory tree.root other.root
  workingDirectory : tree.workingDirectory = other.workingDirectory

def IsNamed (tree : FileTree) : Prop :=
  (Entry.directory tree.root).IsNamed

theorem Same.answers {answer answer' : Except ReadFault Entry} (same : tree.Same other)
    (given : tree.entry? path = answer) (given' : other.entry? path = answer') :
    SameAnswer answer answer' := by
  subst given given'
  unfold FileTree.entry?
  rw [same.workingDirectory]
  by_cases empty : path.isEmpty = true
  · rw [if_pos empty, if_pos empty]
    exact .error _
  · rw [if_neg empty, if_neg empty]
    exact follow_same same.entries same.entries .nil

theorem Same.symm (same : tree.Same other) : other.Same tree :=
  ⟨same.entries.symm, same.workingDirectory.symm⟩

end FileTree

end SeedNavigator
