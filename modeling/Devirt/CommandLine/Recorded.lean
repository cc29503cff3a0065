import Devirt.CommandLine.Session

/-!
# Sessions in memory

A host whose files are a directory tree in memory and whose terminal is a text. What a session
does to them can be looked at afterwards.
-/

namespace Devirt.CommandLine

/-- A directory tree, and what has been printed. -/
structure Recorded where
  tree : File.Tree
  printed : String := ""

namespace Recorded

/-- What is said about an operation that the tree does not allow. -/
def impossible : String := "the operation is not possible here"

/-- The host that keeps everything in memory. -/
def host : Host (StateM Recorded) where
  print text := modify fun recorded => { recorded with printed := recorded.printed ++ text }
  readText path := do
    match (← get).tree.readText? path with
    | none => return .error impossible
    | some text => return .ok text
  createDirectory path := do
    let (tree, isThere) := (← get).tree.createDirectory path
    modify fun recorded => { recorded with tree }
    return if isThere then .ok () else .error impossible
  writeText path text := do
    match (← get).tree.write? path text.toUTF8 with
    | none => return .error impossible
    | some tree =>
      modify fun recorded => { recorded with tree }
      return .ok ()

end Recorded

end Devirt.CommandLine
