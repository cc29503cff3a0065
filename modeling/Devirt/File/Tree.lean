import Devirt.File.Path

/-!
# Directory trees

Files and directories in memory, each at a place given by the names that lead to it from the
root. A path starts at the working directory and is followed name by name, and everything in
front of its last name must be a directory. Two dots lead back up, and from the root nowhere
else. Directories are made one after the other along a path: what was made stays, even if a
later one cannot be made. Files are written as a whole. Neither takes the place of the other.
Paths that start at the root lead nowhere.
-/

namespace Devirt.File

/-- Directories and the contents of files, by their places, and the place where paths start. The
root is always a directory. -/
structure Tree where
  directories : List (List String) := []
  files : List (List String × ByteArray) := []
  working : List String := []

namespace Tree

/-- An empty working directory two steps below the root. The names of these steps are empty, so
no path spells them, and only two dots lead out of it. -/
def blank : Tree := { directories := [[""], ["", ""]], working := ["", ""] }

/-- Whether there is a directory at a place. -/
def isDirectory (tree : Tree) (place : List String) : Bool :=
  place.isEmpty || tree.directories.contains place

/-- The content of the file at a place. -/
def content? (tree : Tree) (place : List String) : Option ByteArray := tree.files.lookup place

/-- The place where a path leads from a directory, if all directories on it exist. -/
def follow? (tree : Tree) (place : List String) : List String → Option (List String)
  | [] => some place
  | name :: rest =>
    if !tree.isDirectory place then none
    else if name = ".." then tree.follow? place.dropLast rest
    else tree.follow? (place ++ [name]) rest

/-- Whether a path may be followed at all. -/
def accepts (path : String) : Bool := !isAbsolute path && fitsPathLimit path

/-- The place where a path leads from the working directory. -/
def target? (tree : Tree) (path : String) : Option (List String) :=
  if accepts path then tree.follow? tree.working (pathNames path) else none

/-- The place of the file that a path means. -/
def place? (tree : Tree) (path : String) : Option (List String) :=
  if meansDirectory path then none else tree.target? path

/-- The text of the file that a path means. -/
def readText? (tree : Tree) (path : String) : Option String :=
  ((tree.place? path).bind tree.content?).bind String.fromUTF8?

/-- The tree with a directory behind each of the names, up to the first name that is taken by a
file or too long. -/
def makeDirectories (tree : Tree) (place : List String) : List String → Tree
  | [] => tree
  | name :: rest =>
    if name = ".." then tree.makeDirectories place.dropLast rest
    else
      let next := place ++ [name]
      if tree.isDirectory next then tree.makeDirectories next rest
      else if (tree.content? next).isSome || !fitsNameLimit name then tree
      else { tree with directories := tree.directories ++ [next] }.makeDirectories next rest

/-- The tree after the attempt to make the directory that a path means, and whether the path
leads to a directory then. A dot is no name under which a directory can be made: for a path that
ends in one, only the directories on the way are made, and the directory itself must exist by
then. -/
def createDirectory (tree : Tree) (path : String) : Tree × Bool :=
  if accepts path then
    let names := pathNames path
    let made := tree.makeDirectories tree.working (if endsInDot path then names.dropLast else names)
    (made, (made.target? path).any made.isDirectory)
  else (tree, false)

/-- The tree with the content at the place of a file. -/
def writeAt (tree : Tree) (place : List String) (content : ByteArray) : Tree :=
  { tree with files := (place, content) :: tree.files.filter (·.1 ≠ place) }

/-- The tree with the content in the file that a path means. -/
def write? (tree : Tree) (path : String) (content : ByteArray) : Option Tree := do
  let place ← tree.place? path
  if tree.isDirectory place || !place.all fitsNameLimit then none
  else some (tree.writeAt place content)

end Tree

end Devirt.File
