import Mathlib.Data.List.Perm.Basic
import Devirt.Proofs.Descent
import Devirt.Proofs.StructureCheck

/-!
# What a walk shows

An occurrence is a place in a program where a method stands: the method with the class and the
package that hold it. In a program that passes the check no two places have one occurrence, so
occurrences tell methods apart even where two packages hold equal ones.

A walk of such a program resets the visitor and then shows it the methods of a list of
occurrences, from left to right. The list is a descent from every root, with each package's
compiled methods in the order of their names. It holds every compiled occurrence exactly once.
The path that the walk keeps has no part in this: it never meets a package again.
-/

namespace Devirt

open Relation

/-- A method where it stands: with the class and the package that hold it. -/
structure Occurrence where
  package : Package
  loaded : LoadedClass
  method : Method

namespace Package

/-- The methods of a package where they stand, class by class. -/
def occurrences (package : Package) : List Occurrence :=
  package.classes.flatMap fun loaded => loaded.methods.map (Occurrence.mk package loaded)

/-- The compiled methods of a package where they stand, in the order a walk shows them. -/
def walkOrder (package : Package) : List Occurrence :=
  (sortOn LoadedClass.name package.classes).flatMap fun loaded =>
    (sortOn Method.fullName (loaded.methods.filter (·.isCompiled))).map
      (Occurrence.mk package loaded)

/-- The order of a package's walk is that of its compiled methods. -/
theorem map_method_walkOrder (package : Package) :
    package.walkOrder.map (·.method) = package.compiledMethods := by
  simp [walkOrder, compiledMethods, List.map_flatMap, Function.comp_def]

/-- The walk of a package shows its compiled methods, each where it stands. -/
theorem walkOrder_perm (package : Package) :
    package.walkOrder.Perm (package.occurrences.filter (·.method.isCompiled)) := by
  have each (loaded : LoadedClass) :
      ((loaded.methods.map (Occurrence.mk package loaded)).filter (·.method.isCompiled)) =
        (loaded.methods.filter (·.isCompiled)).map (Occurrence.mk package loaded) := by
    rw [List.filter_map]
    rfl
  simp only [occurrences, List.filter_flatMap, each]
  exact (sortOn_perm _ _).flatMap fun loaded _ => (sortOn_perm _ _).map _

/-- An occurrence in a package names the package. -/
theorem package_of_mem_occurrences {package : Package} {occurrence : Occurrence}
    (mem : occurrence ∈ package.occurrences) : occurrence.package = package := by
  obtain ⟨loaded, _, mem⟩ := List.mem_flatMap.mp mem
  obtain ⟨method, _, rfl⟩ := List.mem_map.mp mem
  rfl

/-- A package that holds classes and methods of its own holds nothing twice. -/
theorem HoldsOwn.nodup_occurrences {package : Package} (holdsOwn : package.HoldsOwn) :
    package.occurrences.Nodup := by
  refine List.nodup_flatMap.mpr ⟨fun loaded mem => ?_, ?_⟩
  · have distinct := (holdsOwn.classes loaded mem).distinct.of_map
    exact distinct.map fun a b same => congrArg Occurrence.method same
  · refine holdsOwn.distinct.of_map.imp ?_
    intro a b differ occurrence inA inB
    obtain ⟨_, _, rfl⟩ := List.mem_map.mp inA
    obtain ⟨_, _, same⟩ := List.mem_map.mp inB
    exact differ (congrArg Occurrence.loaded same).symm

end Package

namespace Program

variable {program : Program}

/-- All methods of a program where they stand, package by package. -/
def occurrences (program : Program) : List Occurrence := program.packages.flatMap (·.occurrences)

/-- The compiled ones of them. -/
def compiledOccurrences (program : Program) : List Occurrence :=
  program.occurrences.filter (·.method.isCompiled)

/-- A method is compiled when it has an instruction. -/
theorem compiledOccurrences_eq (program : Program) :
    program.compiledOccurrences =
      program.occurrences.filter fun occurrence => occurrence.method.instructions ≠ [] :=
  List.filter_congr fun _ _ => Bool.eq_iff_iff.mpr (Method.isCompiled_iff.trans (by simp))

/-- A place in a program is a method of a class of one of its packages. -/
theorem mem_occurrences {occurrence : Occurrence} :
    occurrence ∈ program.occurrences ↔ occurrence.package ∈ program.packages ∧
      occurrence.loaded ∈ occurrence.package.classes ∧
      occurrence.method ∈ occurrence.loaded.methods := by
  simp only [occurrences, Package.occurrences, List.mem_flatMap, List.mem_map]
  refine ⟨fun mem => ?_, fun ⟨held, has, stands⟩ => ⟨_, held, _, has, _, stands, rfl⟩⟩
  obtain ⟨package, held, loaded, has, method, stands, rfl⟩ := mem
  exact ⟨held, has, stands⟩

/-- In a program that is in order no place occurs twice. -/
theorem nodup_occurrences (orderly : ∀ node, program.Orderly node) :
    program.occurrences.Nodup := by
  refine List.nodup_flatMap.mpr ⟨fun package mem => ?_, ?_⟩
  · exact (orderly ⟨package, mem⟩).contents.nodup_occurrences
  · refine program.ascending.imp ?_
    intro a b lt occurrence inA inB
    have same : a = b := (Package.package_of_mem_occurrences inA).symm.trans
      (Package.package_of_mem_occurrences inB)
    exact String.lt_irrefl _ (same ▸ lt)

/-- What packages show, taken in any order, is what the program holds. -/
theorem flatMap_walkOrder_perm {nodes : List program.Node} (all : nodes.Perm program.nodes) :
    (nodes.flatMap (·.val.walkOrder)).Perm program.compiledOccurrences := by
  have packages : program.packages = program.nodes.map (·.val) := program.map_val_nodes.symm
  have held := congrArg (List.flatMap fun package : Package =>
    package.occurrences.filter (·.method.isCompiled)) packages
  rw [compiledOccurrences, occurrences, List.filter_flatMap, held, List.flatMap_map]
  exact all.flatMap fun node _ => node.val.walkOrder_perm

/-- The occurrences are what packages show in the order of descents from the roots. -/
def WalkOrder (program : Program) (roots : List program.Node) (order : List Occurrence) : Prop :=
  ∃ below : program.Node → List program.Node,
    (∀ root ∈ roots, program.Descent root (below root)) ∧
      order = ((sortOn (·.val.name) roots).flatMap below).flatMap (·.val.walkOrder)

section Visits

variable {m : Type → Type} [Monad m] [LawfulMonad m]

/-- Doing something with all entries of lists is doing it list by list. -/
theorem forM_flatMap {α β : Type} (xs : List α) (f : α → List β) (act : β → m Unit) :
    (xs.flatMap f).forM act = xs.forM fun x => (f x).forM act := by
  induction xs with
  | nil => rfl
  | cons x rest ih =>
    simp only [List.forM_eq_forM] at ih ⊢
    rw [List.flatMap_cons, List.forM_append, List.forM_cons, ih]

omit [LawfulMonad m] in
/-- Doing the same with the entries of a list is the same when it is so for each. -/
theorem forM_congr {α : Type} {xs : List α} {f g : α → m Unit} (same : ∀ x ∈ xs, f x = g x) :
    xs.forM f = xs.forM g := by
  induction xs with
  | nil => rfl
  | cons x rest ih =>
    obtain ⟨first, others⟩ := List.forall_mem_cons.mp same
    simp only [List.forM_eq_forM] at ih ⊢
    rw [List.forM_cons, List.forM_cons, first, ih others]

/-- The methods of a package are shown in the order of its walk. -/
theorem forM_compiledMethods (visit : Method → m Unit) (package : Package) :
    package.compiledMethods.forM visit =
      package.walkOrder.forM fun occurrence => visit occurrence.method := by
  rw [← package.map_method_walkOrder]
  exact List.forM_map

/-- Beneath a grounded package the walk is the descent: the path it keeps never stops it. -/
theorem visitPackage_eq_forM (visit : Method → m Unit) {node : program.Node}
    {shown : List program.Node} (descent : program.Descent node shown)
    (grounded : program.Grounded node) {path : List String}
    (offPath : ∀ other ∈ shown, other.val.name ∉ path) :
    program.visitPackage visit path node =
      (shown.flatMap (·.val.walkOrder)).forM fun occurrence => visit occurrence.method := by
  induction descent generalizing path with
  | visit node below each ih =>
    have fresh : node.val.name ∉ path := offPath node (by simp)
    have beneath (child : program.Node) (mem : child ∈ program.children node) :
        program.visitPackage visit (node.val.name :: path) child =
          ((below child).flatMap (·.val.walkOrder)).forM fun occurrence =>
            visit occurrence.method := by
      -- A package shown beneath the child is not on the path: it is none of those above by
      -- assumption, and if it were `node` the links would close a cycle.
      refine ih child mem (grounded.inv (mem_children.mp mem)) fun other shown onPath => ?_
      rcases List.mem_cons.mp onPath with same | onPath
      · have back := (each child mem).mem_iff.mp (node_eq_of_name_eq same ▸ shown)
        exact grounded.not_cyclic (TransGen.head' (mem_children.mp mem) back)
      · exact offPath other
          (List.mem_append_left _ (List.mem_flatMap.mpr ⟨child, mem, shown⟩)) onPath
    rw [visitPackage, dif_neg fresh, forM_congr beneath, ← forM_flatMap, forM_compiledMethods,
      List.flatMap_append, List.flatMap_assoc, List.flatMap_singleton]
    exact List.forM_append.symm

end Visits

/-- A walk from grounded roots follows an order of occurrences, whatever the visitor does. -/
theorem exists_walkOrder {roots : List program.Node} (passed : program.checkFrom roots = .ok ()) :
    ∃ order, program.WalkOrder roots order ∧
      ∀ (m : Type → Type) [Monad m] [LawfulMonad m] (visitor : Visitor m),
        program.walkFrom roots visitor = (do
          visitor.reset
          order.forM fun occurrence => visitor.visit occurrence.method
          pure (.ok ())) := by
  have grounded (node : program.Node) := (of_checkFrom_eq_ok passed node).2.1
  choose below descents using fun node => (grounded node).exists_descent
  refine ⟨_, ⟨below, fun root _ => descents root, rfl⟩, fun m _ _ visitor => ?_⟩
  rw [walkFrom, passed, forM_congr fun root _ =>
    visitPackage_eq_forM visitor.visit (descents root) (grounded root) (by simp), ← forM_flatMap,
    List.flatMap_assoc]

/-- After a passed check the descents from the roots show every package. -/
theorem mem_of_descents {roots : List program.Node} {below : program.Node → List program.Node}
    (passed : program.checkFrom roots = .ok ())
    (descents : ∀ root ∈ roots, program.Descent root (below root)) (node : program.Node) :
    node ∈ (sortOn (·.val.name) roots).flatMap below := by
  obtain ⟨root, mem, beneath⟩ := (of_checkFrom_eq_ok passed node).2.2
  exact List.mem_flatMap.mpr ⟨root, (sortOn_perm _ roots).mem_iff.mpr mem,
    (descents root mem).mem_iff.mpr beneath⟩

/-- A walk shows every compiled method and no other, whatever its roots are. -/
theorem WalkOrder.mem_iff {roots : List program.Node} {order : List Occurrence}
    (walkOrder : program.WalkOrder roots order) (passed : program.checkFrom roots = .ok ())
    {occurrence : Occurrence} : occurrence ∈ order ↔ occurrence ∈ program.compiledOccurrences := by
  obtain ⟨below, descents, rfl⟩ := walkOrder
  rw [← (flatMap_walkOrder_perm (.refl program.nodes)).mem_iff, List.mem_flatMap, List.mem_flatMap]
  refine exists_congr fun node => and_congr_left fun _ => ?_
  exact iff_of_true (mem_of_descents passed descents node) (List.mem_attach _ _)

/-- A walk from distinct roots without parents shows every compiled method exactly once. -/
theorem WalkOrder.perm {roots : List program.Node} {order : List Occurrence}
    (walkOrder : program.WalkOrder roots order) (passed : program.checkFrom roots = .ok ())
    (distinct : roots.Nodup) (noParent : ∀ root ∈ roots, root.val.parent = none) :
    order.Perm program.compiledOccurrences := by
  obtain ⟨below, descents, rfl⟩ := walkOrder
  have sorted : (sortOn (·.val.name) roots).Perm roots := sortOn_perm _ roots
  have agrees (top : program.Node) : program.AgreesBelow top :=
    fun parent _ _ listed => (of_checkFrom_eq_ok passed parent).1.declares listed
  have once : ((sortOn (·.val.name) roots).flatMap below).Nodup :=
    nodup_flatMap_descents (sorted.nodup_iff.mpr distinct)
      (fun top mem => descents top (sorted.mem_iff.mp mem)) (fun top _ => agrees top)
      (fun a _ b mem =>
        not_transGen_of_parent_eq_none (agrees a) (noParent b (sorted.mem_iff.mp mem)))
      fun top mem => (descents top (sorted.mem_iff.mp mem)).nodup (agrees top)
        (of_checkFrom_eq_ok passed top).2.1
  refine flatMap_walkOrder_perm ((List.perm_ext_iff_of_nodup once nodup_nodes).mpr fun node => ?_)
  exact iff_of_true (mem_of_descents passed descents node) (List.mem_attach _ _)

/-- A walk from the roots without parents shows every compiled method exactly once. -/
theorem WalkOrder.perm_of_check {order : List Occurrence}
    (walkOrder : program.WalkOrder program.roots order) (accepted : program.check = .ok ()) :
    order.Perm program.compiledOccurrences :=
  walkOrder.perm accepted nodup_roots fun _ mem => mem_roots.mp mem

/-- A walk of a program that passes the check comes to an end, although it keeps no set of
packages it has shown: it follows descents from the roots. Every method with an instruction is shown
exactly once, where it stands, and no other; what the visitor does, it does for the methods of that
order from left to right, after one reset. -/
theorem walk_shows_each_compiled_method_once (program : Program)
    (accepted : program.check = .ok ()) :
    ∃ order, program.WalkOrder program.roots order ∧
      order.Perm (program.occurrences.filter fun occurrence =>
        occurrence.method.instructions ≠ []) ∧
      order.Nodup ∧
      ∀ (m : Type → Type) [Monad m] [LawfulMonad m] (visitor : Visitor m),
        program.walk visitor = (do
          visitor.reset
          order.forM fun occurrence => visitor.visit occurrence.method
          pure (.ok ())) := by
  obtain ⟨order, walkOrder, follows⟩ := exists_walkOrder accepted
  have perm := walkOrder.perm_of_check accepted
  have distinct := nodup_occurrences (wellFormed_of_check accepted).orderly
  rw [compiledOccurrences_eq] at perm
  exact ⟨order, walkOrder, perm, perm.nodup_iff.mpr (distinct.filter _), follows⟩

/-- A package that lists its only child twice. The child holds a method without native code. -/
def twiceListed : Program where
  packages := [
    { name := "a", children := ["a.b", "a.b"],
      classes := [{
        info := { name := "a.M" }, package := "a",
        methods := [{
          member := ⟨"a.M", "f", "()V"⟩
          instructions := [{ address := 16, mnemonic := "ret" }] }] }] },
    { name := "a.b", parent := some "a",
      classes := [{
        info := { name := "a.b.N" }, package := "a.b",
        methods := [
          { member := ⟨"a.b.N", "g", "()V"⟩ },
          { member := ⟨"a.b.N", "f", "()V"⟩
            instructions := [{ address := 32, mnemonic := "ret" }] }] }] }]
  ascending := by decide

/-- The child that is listed twice is walked once, and its method without code is left out. -/
theorem walk_of_twiceListed :
    twiceListed.check = .ok () ∧ ∃ order, twiceListed.WalkOrder twiceListed.roots order ∧
      order.Perm (twiceListed.occurrences.filter fun occurrence =>
        occurrence.method.instructions ≠ []) ∧ order.length = 2 := by
  have accepted : twiceListed.check = .ok () := by decide +kernel
  obtain ⟨order, walkOrder, perm, _⟩ := walk_shows_each_compiled_method_once twiceListed accepted
  exact ⟨accepted, order, walkOrder, perm, perm.length_eq.trans (by decide +kernel)⟩

end Program

end Devirt
