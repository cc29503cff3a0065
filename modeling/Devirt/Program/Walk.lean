import Devirt.Program.Structure

/-!
# Walking a program

A visitor is shown every compiled method of a well-formed program, depth first: below a package
its children come first, then its own methods, all in ascending order of names. The visitor is
reset before the first method. A program that is not well formed is refused before the visitor
is touched.

The visitor works in a monad of its own, so it may keep a state and may fail; a failure ends
the walk. A package that is on the path from the root is not entered again, which happens only
in programs that the check refuses.
-/

namespace Devirt

/-- What is done at the start of a walk and at every compiled method. -/
structure Visitor (m : Type → Type) where
  reset : m Unit
  visit : Method → m Unit

namespace Program

/-- The children of a package that the program holds, ascending by name. -/
def children (program : Program) (node : program.Node) : List program.Node :=
  node.val.childNames.filterMap program.node?

/-- Shows the visitor the methods beneath a package. The path holds the names above it. -/
def visitPackage {m : Type → Type} [Monad m] (program : Program) (visit : Method → m Unit)
    (path : List String) (node : program.Node) : m Unit :=
  if _fresh : node.val.name ∈ path then pure ()
  else do
    (program.children node).forM fun child =>
      program.visitPackage visit (node.val.name :: path) child
    node.val.compiledMethods.forM visit
termination_by program.remaining path
decreasing_by exact program.remaining_cons_lt node _fresh

/-- Walks the program from the given roots, unless its structure is broken. -/
def walkFrom {m : Type → Type} [Monad m] (program : Program) (roots : List program.Node)
    (visitor : Visitor m) : m (Except StructureError Unit) :=
  match program.checkFrom roots with
  | .error e => pure (.error e)
  | .ok () => do
    visitor.reset
    (sortOn (·.val.name) roots).forM (program.visitPackage visitor.visit [])
    pure (.ok ())

/-- Walks the program, unless its structure is broken. -/
def walk {m : Type → Type} [Monad m] (program : Program) (visitor : Visitor m) :
    m (Except StructureError Unit) := program.walkFrom program.roots visitor

end Program

end Devirt
