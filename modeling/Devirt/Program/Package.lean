import Devirt.Ascending
import Devirt.Method
import Devirt.TypeHierarchy

/-!
# Packages and classes

A package holds classes, and a class holds methods. Packages form a tree by name: each lists
its children and may name a parent, and each class and method names the package or class it
belongs to. Nothing here makes these names agree.
-/

namespace Devirt

/-- A class: its declared shape, the package it says it belongs to, and its methods. -/
structure LoadedClass where
  info : TypeInfo
  package : String
  methods : List Method := []
deriving DecidableEq

/-- The name of the class. -/
def LoadedClass.name (loaded : LoadedClass) : String := loaded.info.name

/-- A package with the classes it holds. -/
structure Package where
  name : String
  parent : Option String := none
  children : List String := []
  classes : List LoadedClass := []
deriving DecidableEq

namespace Package

/-- The methods of the package's classes. -/
def methods (package : Package) : List Method := package.classes.flatMap (·.methods)

/-- The names of the children in ascending order, each once. -/
def childNames (package : Package) : List String := distinctAscending package.children

/-- The compiled methods, by class name and then by their own names, both ascending. -/
def compiledMethods (package : Package) : List Method :=
  (sortOn LoadedClass.name package.classes).flatMap fun loaded =>
    sortOn Method.fullName (loaded.methods.filter (·.isCompiled))

end Package

end Devirt
