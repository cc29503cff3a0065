import Devirt.Program.Package
import Devirt.Text.Basic

/-!
# Programs

The packages of a program, ascending by name, no name twice, and the types that are known
beyond its classes. A package is never replaced: inserting a second one of the same name is
refused and leaves the program as it is.
-/

namespace Devirt

/-- The packages of a program and the types known beyond them. -/
structure Program where
  packages : List Package := []
  extraTypes : List TypeInfo := []
  ascending : packages.Pairwise (·.name < ·.name) := by exact List.Pairwise.nil

/-- A package whose name is taken. -/
structure DuplicatePackage where
  name : String
deriving DecidableEq, Repr

namespace Program

/-- A package that the program holds. -/
abbrev Node (program : Program) := { package : Package // package ∈ program.packages }

/-- The packages as nodes. -/
def nodes (program : Program) : List program.Node := program.packages.attach

/-- The package of a name. -/
def node? (program : Program) (name : String) : Option program.Node :=
  program.nodes.find? (·.val.name == name)

/-- Whether the program holds a package of the name. -/
def hasPackage (program : Program) (name : String) : Bool := (program.node? name).isSome

/-- The packages without a parent. -/
def roots (program : Program) : List program.Node := program.nodes.filter (·.val.parent.isNone)

/-- The program with a package more. -/
def insert (program : Program) (package : Package) : Except DuplicatePackage Program :=
  if program.hasPackage package.name then .error ⟨package.name⟩
  else .ok {
    program with
    packages := insertAscending Package.name (fun older _ => older) package program.packages
    ascending := pairwise_insertAscending (fun _ _ _ => String.lt_trans) (fun _ _ => rfl)
      program.ascending }

/-- The program with a known type more. -/
def addType (program : Program) (info : TypeInfo) : Program :=
  { program with extraTypes := program.extraTypes ++ [info] }

/-- The classes of all packages. -/
def classes (program : Program) : List LoadedClass := program.packages.flatMap (·.classes)

/-- The methods of all classes. -/
def methods (program : Program) : List Method := program.classes.flatMap (·.methods)

/-- The methods whose fully qualified name contains the text, ascending by that name. -/
def findMethods (program : Program) (text : String) : List Method :=
  sortOn Method.fullName (program.methods.filter fun method => Text.contains method.fullName text)

/-- The hierarchy of the classes, in the order of the packages, and then the further types. -/
def typeHierarchy (program : Program) : TypeHierarchy :=
  .ofList (program.classes.map (·.info) ++ program.extraTypes)

end Program

end Devirt
