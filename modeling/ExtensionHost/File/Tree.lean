/-
**Trees of files, and the paths in them.**

* `FileTree`: a file, or a directory of named trees.
* `Place`: a tree with the directories above it; `Place.step` follows one name of a path and
  `Place.walk` follows several.
* `FileTree.read`: what is found at a path.
* `FileTree.system`: the root of a system, with entries beside those that each system has.
-/

import ExtensionHost.File.Basic

namespace ExtensionHost

/-- A file, or a directory of named trees. -/
inductive FileTree where
  | file (bytes : ByteArray)
  | directory (entries : List (String × FileTree))

/-- What is found by opening the tree as a file. -/
def FileTree.content : FileTree → FileContent
  | file bytes => .ok bytes
  | directory _ => .error .directory

/-- A tree with the directories above it, the nearest first. -/
structure Place where
  /-- What is at the place. -/
  found : FileTree
  /-- The directories above; there are none above a root. -/
  above : List FileTree := []

namespace Place

/-- The greatest number of bytes in a name. -/
def longestName : Nat := 255

/-- The place one name further. Only a directory has places further on, itself and the one above it
among them: an empty name and `.` stay there, and `..` goes up, except from a root. -/
def step (place : Place) (name : String) : Except FileProblem Place :=
  match place.found, name with
  | .file _, _ => throw .notDirectory
  | .directory _, "" | .directory _, "." => return place
  | .directory _, ".." =>
    match place.above with
    | [] => return place
    | parent :: above => return ⟨parent, above⟩
  | .directory entries, name =>
    if longestName < name.utf8ByteSize then throw .tooLong
    else match entries.lookup name with
      | some found => return ⟨found, place.found :: place.above⟩
      | none => throw .missing

/-- The place at the end of several names. -/
def walk (place : Place) (names : List String) : Except FileProblem Place :=
  names.foldlM step place

end Place

namespace FileTree

/-- The greatest number of bytes in a path. -/
def longestPath : Nat := 4095

/-- What is found at a path: one that begins with a slash starts at the root, any other one in the
working directory. The names stand between slashes, so that what comes before a final slash has to
be a directory. -/
def read (root : FileTree) (working : Place) (path : String) : FileContent := do
  if path = "" then throw .missing
  if longestPath < path.utf8ByteSize then throw .tooLong
  let start := if path.startsWith "/" then { found := root } else working
  (← start.walk (path.splitOn "/")).found.content

/-- The directories that each system has under its root. -/
def systemDirectories : List String :=
  ["bin", "boot", "etc", "home", "lib", "media", "mnt", "opt", "proc", "root", "run", "sbin", "srv",
    "sys", "tmp", "usr", "var"]

/-- The root of a system, with entries beside those that each system has. The null device reads as an
empty file. -/
def system (entries : List (String × FileTree)) : FileTree :=
  .directory (entries ++ ("dev", .directory [("null", .file .empty)]) ::
    systemDirectories.map fun name => (name, .directory []))

end FileTree

end ExtensionHost
