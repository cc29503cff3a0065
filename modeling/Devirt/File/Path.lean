import Devirt.Text.Line

/-!
# Paths of files

Paths are strings of names with slashes between them. Empty names and single dots count for
nothing, so the name of a file is the last name of its path that is neither. Two dots are no
name of a file. Paths and names have a greatest length, in bytes.
-/

namespace Devirt.File

/-- The stretches of a path between its slashes. -/
def pathParts (path : String) : List String :=
  (stretches (path.toList.map fun c => if c = '/' then none else some c)).map String.ofList

/-- The names of a path that count. -/
def pathNames (path : String) : List String :=
  (pathParts path).filter fun part => part ≠ "" ∧ part ≠ "."

/-- Whether a path can only mean a directory: it is empty, or nothing that counts stands behind
its last slash. -/
def meansDirectory (path : String) : Bool :=
  (pathParts path).getLast?.all fun part => part == "" || part == "."

/-- Whether the last stretch of a path that is not empty is a single dot. -/
def endsInDot (path : String) : Bool :=
  ((pathParts path).filter (· ≠ "")).getLast? == some "."

/-- The most bytes that a path may have. -/
def pathLimit : Nat := 4095

/-- The most bytes that a name may have. -/
def nameLimit : Nat := 255

/-- Whether the path as a whole is short enough to be used. -/
def fitsPathLimit (path : String) : Bool := path.utf8ByteSize ≤ pathLimit

/-- Whether a name is short enough for a file or a directory. -/
def fitsNameLimit (name : String) : Bool := name.utf8ByteSize ≤ nameLimit

/-- Whether a path starts at the root of the file system. -/
def isAbsolute (path : String) : Bool := path.toList.head? == some '/'

/-- The name of the file that a path leads to. -/
def fileName? (path : String) : Option String :=
  match (pathNames path).getLast? with
  | none | some ".." => none
  | some name => some name

/-- The text behind the last dot of a name. There is none if that dot stands at the front. -/
def extensionOfName? (name : String) : Option String :=
  let behind := name.toList.reverse.takeWhile (· ≠ '.')
  match name.toList.reverse.dropWhile (· ≠ '.') with
  | [] | [_] => none
  | _ => some (String.ofList behind.reverse)

/-- The extension of the file that a path leads to. -/
def extension? (path : String) : Option String := (fileName? path).bind extensionOfName?

/-- Whether a path leads to a file with the extension of snapshots, in any case. -/
def isSnapshotPath (path : String) : Bool :=
  (extension? path).any fun ext => ext.map Char.toLower == "json"

/-- The path of a file in a directory. The empty path means the working directory. -/
def joinPath (directory name : String) : String :=
  match directory.toList.getLast? with
  | none | some '/' => directory ++ name
  | some _ => directory ++ "/" ++ name

end Devirt.File
