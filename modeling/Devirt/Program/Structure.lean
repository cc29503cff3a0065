import Devirt.Program.Basic
import Devirt.Text.Printable

/-!
# The structure of a program

A program is well formed if its packages are trees: every listed child is a package that names
its lister as its parent, and every package hangs under a root. Classes and methods must say
that they belong where they are held, and no container may hold two of one name.

The check goes down from the roots, in ascending order of names, and keeps the names on the
path from the root, which would come again in a cycle, and the names it has reached. Packages
that it never reaches are explained by following their parents up. Both searches end because
the names they keep are names of packages, and one more is kept at every step.

Any of the packages may be given as roots, in any order and more than once. Without a choice
they are the packages that have no parent.
-/

namespace Devirt

/-- What is wrong with the structure of a program. -/
inductive StructureError
  | cyclicPackage (name : String)
  | missingPackage (parent child : String)
  | missingParent (package parent : String)
  | parentMismatch (package listedUnder : String) (declared : Option String)
  | unreachablePackage (name : String)
  | orphanClass (className container declared : String)
  | orphanMethod (method container declared : String)
  | duplicateClass (className package : String)
  | duplicateMethod (method className : String)
deriving DecidableEq, Repr

/-- A declared parent, as a message shows it. -/
def parentText : Option String → String
  | none => "None"
  | some name => "Some(" ++ Text.quoted name ++ ")"

/-- The error in words. -/
def StructureError.message : StructureError → String
  | cyclicPackage name => "Package cycle detected at " ++ name
  | missingPackage parent child =>
    "Package " ++ parent ++ " references missing child package " ++ child
  | missingParent package parent =>
    "Package " ++ package ++ " declares missing parent package " ++ parent
  | parentMismatch package listedUnder declared =>
    "Package " ++ package ++ " is listed under " ++ listedUnder ++ " but declares parent " ++
      parentText declared
  | unreachablePackage name => "Package " ++ name ++ " is not reachable from any root package"
  | orphanClass className container declared =>
    "Class " ++ className ++ " is held by package " ++ container ++ " but declares package " ++
      declared
  | orphanMethod method container declared =>
    "Method " ++ method ++ " is held by class " ++ container ++ " but declares class " ++ declared
  | duplicateClass className package =>
    "Class " ++ className ++ " appears more than once in package " ++ package
  | duplicateMethod method className =>
    "Method " ++ method ++ " appears more than once in class " ++ className

/-- Checks methods of a class, in order. The names of those before them are given. -/
def LoadedClass.checkMethods (loaded : LoadedClass) (seen : List String) :
    List Method → Except StructureError Unit
  | [] => .ok ()
  | method :: rest =>
    if method.fullName ∈ seen then .error (.duplicateMethod method.fullName loaded.name)
    else if method.member.className ≠ loaded.name then
      .error (.orphanMethod method.fullName loaded.name method.member.className)
    else loaded.checkMethods (method.fullName :: seen) rest

/-- Checks classes of a package, in order. The names of those before them are given. -/
def Package.checkClasses (package : Package) (seen : List String) :
    List LoadedClass → Except StructureError Unit
  | [] => .ok ()
  | loaded :: rest =>
    if loaded.name ∈ seen then .error (.duplicateClass loaded.name package.name)
    else if loaded.package ≠ package.name then
      .error (.orphanClass loaded.name package.name loaded.package)
    else do
      loaded.checkMethods [] loaded.methods
      package.checkClasses (loaded.name :: seen) rest

namespace Program

/-- The number of packages whose names are not among the given ones. -/
def remaining (program : Program) (names : List String) : Nat :=
  (program.packages.filter (·.name ∉ names)).length

/-- Taking in the name of one more package leaves fewer packages. -/
theorem remaining_cons_lt (program : Program) (node : program.Node) {names : List String}
    (fresh : node.val.name ∉ names) :
    program.remaining (node.val.name :: names) < program.remaining names := by
  have sub : ∀ package : Package, (decide (package.name ∉ node.val.name :: names)) =
      (decide (package.name ≠ node.val.name) && decide (package.name ∉ names)) := by
    intro package
    simp
  have member : node.val ∈ program.packages.filter (·.name ∉ names) := by
    simp [node.property, fresh]
  unfold remaining
  rw [List.filter_congr fun package _ => sub package, ← List.filter_filter]
  refine List.length_filter_lt_length_iff_exists.2 ⟨node.val, member, by simp⟩

/-- The package that a parent lists as its child. -/
def child (program : Program) (parent name : String) : Except StructureError program.Node :=
  match program.node? name with
  | none => .error (.missingPackage parent name)
  | some child =>
    if child.val.parent = some parent then .ok child
    else .error (.parentMismatch child.val.name parent child.val.parent)

/-- Checks a package and all packages beneath it. The path holds the names of the packages
above it. The result holds the names that have been reached, those given included. A package
that has been reached before is not checked again. -/
def checkPackage (program : Program) (path reached : List String) (node : program.Node) :
    Except StructureError (List String) :=
  if _fresh : node.val.name ∈ path then .error (.cyclicPackage node.val.name)
  else if node.val.name ∈ reached then .ok reached
  else do
    node.val.checkClasses [] node.val.classes
    node.val.childNames.foldlM
      (fun reached name => do
        program.checkPackage (node.val.name :: path) reached (← program.child node.val.name name))
      (node.val.name :: reached)
termination_by program.remaining path
decreasing_by exact program.remaining_cons_lt node _fresh

/-- Why a package was not reached: follows the parents from one of its ancestors on. The names
of the ancestors before are given. -/
def explainUnreached (program : Program) (origin : String) (seen : List String)
    (node : program.Node) : StructureError :=
  match node.val.parent with
  | none => .unreachablePackage origin
  | some parent =>
    if _fresh : node.val.name ∈ seen then .cyclicPackage node.val.name
    else match program.node? parent with
      | none => .missingParent node.val.name parent
      | some next => program.explainUnreached origin (node.val.name :: seen) next
termination_by program.remaining seen
decreasing_by exact program.remaining_cons_lt node _fresh

/-- Checks the structure of the program with the given roots. -/
def checkFrom (program : Program) (roots : List program.Node) : Except StructureError Unit := do
  let reached ← (sortOn (·.val.name) roots).foldlM (program.checkPackage []) []
  match program.nodes.find? (·.val.name ∉ reached) with
  | none => .ok ()
  | some node => .error (program.explainUnreached node.val.name [] node)

/-- Checks the structure of the program. -/
def check (program : Program) : Except StructureError Unit := program.checkFrom program.roots

end Program

end Devirt
