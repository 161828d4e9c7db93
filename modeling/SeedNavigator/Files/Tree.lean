import SeedNavigator.Files.Host
import SeedNavigator.Text.Pieces

/-! A file system in memory: directories, files and symbolic links, and the directory that relative
paths start from. -/
namespace SeedNavigator

inductive Entry where
  | file (content : ByteArray)
  | directory (entries : List (String × Entry))
  | link (target : String)

abbrev Directory := List (String × Entry)

def segments (path : String) : List String :=
  (Text.pieces '/' path.toList).map String.ofList

def isIdleSegment (segment : String) : Bool :=
  segment = "" || segment = "."

namespace Entry

mutual

def listing : Entry → Listing
  | .file content => .file content.size
  | .directory entries => .directory (listings entries)
  | .link _ => .other

def listings : List (String × Entry) → List (String × Listing)
  | [] => []
  | (name, entry) :: rest => (name, entry.listing) :: listings rest

end

end Entry

namespace Directory

/-- Puts an entry in the place of the one of that name, or at the end. -/
def put (directory : Directory) (name : String) (entry : Entry) : Directory :=
  match directory with
  | [] => [(name, entry)]
  | known :: rest => if known.1 = name then (name, entry) :: rest else known :: put rest name entry

/-- The entries of a subdirectory; anything else in its place counts as an empty one. -/
def below (directory : Directory) (name : String) : Directory :=
  match directory.lookup name with
  | some (.directory entries) => entries
  | _ => []

/-- Writes an entry below a directory. The directories on the way are made as needed. -/
def write (directory : Directory) (path : List String) (entry : Entry) : Directory :=
  match path with
  | [] => directory
  | [name] => directory.put name entry
  | name :: rest => directory.put name (.directory ((directory.below name).write rest entry))

/-- Takes an entry away, with all that lies below it; `none` if there is no such entry. -/
def remove? (directory : Directory) (path : List String) : Option Directory :=
  match path with
  | [] => none
  | [name] =>
    if (directory.lookup name).isSome then some (directory.filter (·.1 ≠ name)) else none
  | name :: rest =>
    ((directory.below name).remove? rest).map fun entries => directory.put name (.directory entries)

end Directory

structure FileTree where
  root : Directory
  /-- An absolute path without links. -/
  workingDirectory : String

namespace FileTree

/-- More links than this on one way are taken for a circle. -/
def maxLinks : Nat := 40

/-- The entry at the end of a way from a directory, whose parents are given from the closest one on.
Links are followed, the last one too. -/
def follow (root : Directory) (links : Nat) (inner : Directory) (outer : List Directory)
    (way : List String) : Except ReadFault Entry :=
  match way with
  | [] => .ok (.directory inner)
  | segment :: rest =>
    if isIdleSegment segment then follow root links inner outer rest
    else if segment = ".." then
      match outer with
      | [] => follow root links inner [] rest
      | parent :: outer => follow root links parent outer rest
    else
      match inner.lookup segment with
      | none => .error .missing
      | some (.directory entries) => follow root links entries (inner :: outer) rest
      | some (.file content) => if rest.isEmpty then .ok (.file content) else .error .notDirectory
      | some (.link target) =>
        if links = 0 then .error .tooManyLinks
        else if target.startsWith "/" then follow root (links - 1) root [] (segments target ++ rest)
        else follow root (links - 1) inner outer (segments target ++ rest)
termination_by (links, way.length)

/-- The entry that a path leads to. -/
def entry? (tree : FileTree) (path : String) : Except ReadFault Entry :=
  if path.isEmpty then .error .missing
  else
    let way := if path.startsWith "/" then [] else segments tree.workingDirectory
    follow tree.root maxLinks tree.root [] (way ++ segments path)

def readBytes (tree : FileTree) (path : String) : Except ReadFault ByteArray :=
  match tree.entry? path with
  | .ok (.file content) => .ok content
  | .ok _ => .error .isDirectory
  | .error fault => .error fault

def isDirectory (tree : FileTree) (path : String) : Bool :=
  match tree.entry? path with
  | .ok (.directory _) => true
  | _ => false

def isFile (tree : FileTree) (path : String) : Bool :=
  match tree.entry? path with
  | .ok (.file _) => true
  | _ => false

def list (tree : FileTree) (path : String) : Listing :=
  match tree.entry? path with
  | .ok entry => entry.listing
  | .error _ => .other

def host (tree : FileTree) : Host Id where
  isDirectory := tree.isDirectory
  isFile := tree.isFile
  readBytes := tree.readBytes
  list := tree.list
  workingDirectory := tree.workingDirectory

end FileTree

end SeedNavigator
