import Devirt.Proofs.NameOrder
import Devirt.Proofs.Partings
import Devirt.Proofs.WalkOrder

/-!
# Which method a walk shows first

The order of a walk is told pair by pair. Of two methods of one class the one with the smaller
fully qualified name comes first, of two classes of one package the one with the smaller name. A
package comes before all that lie above it, and packages that part come in the order of the names
they part with. That no two of these rules contradict each other, and that there are no ties,
comes from the check: names of classes and methods are distinct where they are held, and the
packages above a package make one chain.

Names are compared as they are sorted, which is by their bytes in UTF-8.
-/

namespace Devirt

open Relation

namespace Program

/-- A walk shows one occurrence before another: by the name of the method in one class, by the name
of the class in one package, and else by the packages. -/
inductive Precedes (program : Program) : Occurrence → Occurrence → Prop
  | byMethod {package : Package} {loaded : LoadedClass} {a b : Method}
      (smaller : a.fullName < b.fullName) :
      Precedes program ⟨package, loaded, a⟩ ⟨package, loaded, b⟩
  | byClass {package : Package} {loaded other : LoadedClass} {a b : Method}
      (smaller : loaded.name < other.name) :
      Precedes program ⟨package, loaded, a⟩ ⟨package, other, b⟩
  | byPackage {package next : Package} {loaded other : LoadedClass} {a b : Method}
      (held : package ∈ program.packages) (nextHeld : next ∈ program.packages)
      (before : program.ShownBefore ⟨package, held⟩ ⟨next, nextHeld⟩) :
      Precedes program ⟨package, loaded, a⟩ ⟨next, other, b⟩

variable {program : Program}

/-- A package that holds classes and methods of its own shows them by their names. -/
theorem pairwise_walkOrder {package : Package} (holdsOwn : package.HoldsOwn) :
    package.walkOrder.Pairwise program.Precedes := by
  refine List.pairwise_flatMap.mpr ⟨fun loaded mem => ?_, ?_⟩
  · have held : loaded ∈ package.classes := (sortOn_perm _ _).mem_iff.mp mem
    have distinct : ((loaded.methods.filter (·.isCompiled)).map (·.fullName)).Nodup :=
      (holdsOwn.classes loaded held).distinct.sublist (List.filter_sublist.map _)
    exact List.pairwise_map.mpr ((pairwise_lt_sortOn distinct).imp .byMethod)
  · refine (pairwise_lt_sortOn holdsOwn.distinct).imp ?_
    intro loaded other smaller first inFirst second inSecond
    obtain ⟨_, _, rfl⟩ := List.mem_map.mp inFirst
    obtain ⟨_, _, rfl⟩ := List.mem_map.mp inSecond
    exact .byClass smaller

/-- What stands in the order of a package's walk stands in the package. -/
theorem package_of_mem_walkOrder {package : Package} {occurrence : Occurrence}
    (mem : occurrence ∈ package.walkOrder) : occurrence.package = package :=
  Package.package_of_mem_occurrences
    (List.mem_of_mem_filter (package.walkOrder_perm.mem_iff.mp mem))

/-- A walk shows occurrences in the order told. -/
theorem WalkOrder.pairwise {order : List Occurrence}
    (walkOrder : program.WalkOrder program.roots order)
    (orderly : ∀ node, program.Orderly node) : order.Pairwise program.Precedes := by
  obtain ⟨below, descents, rfl⟩ := walkOrder
  have packages := pairwise_flatMap_descents (pairwise_siblings_roots program)
    (fun root mem => descents root ((sortOn_perm _ _).mem_iff.mp mem))
    (fun root mem => (descents root ((sortOn_perm _ _).mem_iff.mp mem)).pairwise)
  refine List.pairwise_flatMap.mpr
    ⟨fun node _ => pairwise_walkOrder (orderly node).contents, packages.imp ?_⟩
  intro node next before first inFirst second inSecond
  obtain ⟨_, loaded, a⟩ := first
  obtain ⟨_, other, b⟩ := second
  obtain rfl := package_of_mem_walkOrder inFirst
  obtain rfl := package_of_mem_walkOrder inSecond
  exact .byPackage node.property next.property before

section Rules

variable (wellFormed : program.WellFormed) {package next : Package} {loaded other : LoadedClass}
  {a b : Method}
include wellFormed

/-- In one class the names of the methods decide. -/
theorem precedes_iff_of_same_class :
    program.Precedes ⟨package, loaded, a⟩ ⟨package, loaded, b⟩ ↔ a.fullName < b.fullName := by
  refine ⟨fun precedes => ?_, .byMethod⟩
  cases precedes with
  | byMethod smaller => exact smaller
  | byClass smaller => exact absurd smaller (String.lt_irrefl _)
  | byPackage _ _ before => exact absurd before (wellFormed.shownBefore_asymm before)

/-- In one package the names of different classes decide. -/
theorem precedes_iff_of_same_package (differ : loaded ≠ other) :
    program.Precedes ⟨package, loaded, a⟩ ⟨package, other, b⟩ ↔ loaded.name < other.name := by
  refine ⟨fun precedes => ?_, .byClass⟩
  cases precedes with
  | byMethod => exact absurd rfl differ
  | byClass smaller => exact smaller
  | byPackage _ _ before => exact absurd before (wellFormed.shownBefore_asymm before)

omit wellFormed in
/-- Else the packages decide. -/
theorem precedes_iff_of_packages (held : package ∈ program.packages)
    (nextHeld : next ∈ program.packages) (differ : package ≠ next) :
    program.Precedes ⟨package, loaded, a⟩ ⟨next, other, b⟩ ↔
      program.ShownBefore ⟨package, held⟩ ⟨next, nextHeld⟩ := by
  refine ⟨fun precedes => ?_, .byPackage held nextHeld⟩
  cases precedes with
  | byMethod => exact absurd rfl differ
  | byClass => exact absurd rfl differ
  | byPackage _ _ before => exact before

/-- Of two occurrences at most one precedes the other. -/
theorem precedes_asymm {first second : Occurrence} (precedes : program.Precedes first second) :
    ¬ program.Precedes second first := by
  cases precedes with
  | byMethod smaller =>
    rw [precedes_iff_of_same_class wellFormed]
    exact String.lt_asymm smaller
  | @byClass package loaded other a b smaller =>
    have differ : other ≠ loaded := fun same => String.lt_irrefl _ (same ▸ smaller)
    rw [precedes_iff_of_same_package wellFormed differ]
    exact String.lt_asymm smaller
  | @byPackage package next loaded other a b held nextHeld before =>
    have differ : next ≠ package := by
      intro same
      subst same
      exact wellFormed.shownBefore_asymm before before
    rw [precedes_iff_of_packages nextHeld held differ]
    exact wellFormed.shownBefore_asymm before

end Rules

/-- Which of two different occurrences comes first in an order. Names are compared byte by byte. -/
structure KeepsRules (program : Program) (order : List Occurrence) (first second : Occurrence) :
    Prop where
  sameClass : first.package = second.package → first.loaded = second.loaded →
    ([first, second].Sublist order ↔
      Text.utf8 first.method.fullName < Text.utf8 second.method.fullName)
  samePackage : first.package = second.package → first.loaded ≠ second.loaded →
    ([first, second].Sublist order ↔ Text.utf8 first.loaded.name < Text.utf8 second.loaded.name)
  beneath : ∀ p q : program.Node, p.val = first.package → q.val = second.package →
    TransGen program.Lists q p → [first, second].Sublist order
  apart : ∀ p q : program.Node, p.val = first.package → q.val = second.package →
    ¬ ReflTransGen program.Lists p q → ¬ ReflTransGen program.Lists q p →
      ∃ a b, (∀ x y, program.PartAt p q x y ↔ x = a ∧ y = b) ∧
        ([first, second].Sublist order ↔ Text.utf8 a.val.name < Text.utf8 b.val.name)

/-- The order of a walk keeps the rules. -/
theorem keepsRules_of_pairwise (wellFormed : program.WellFormed) {order : List Occurrence}
    (ordered : order.Pairwise program.Precedes) {first second : Occurrence}
    (inFirst : first ∈ order) (inSecond : second ∈ order) (differ : first ≠ second) :
    program.KeepsRules order first second := by
  have decides : [first, second].Sublist order ↔ program.Precedes first second :=
    pair_sublist_iff ordered inFirst inSecond differ (precedes_asymm wellFormed)
  obtain ⟨package, loaded, a⟩ := first
  obtain ⟨next, other, b⟩ := second
  refine ⟨?_, ?_, ?_, ?_⟩
  · rintro rfl rfl
    rw [decides, Text.utf8_lt_iff]
    exact precedes_iff_of_same_class wellFormed
  · rintro rfl otherClass
    rw [decides, Text.utf8_lt_iff]
    exact precedes_iff_of_same_package wellFormed otherClass
  · rintro ⟨_, held⟩ ⟨_, nextHeld⟩ rfl rfl below
    exact decides.mpr (.byPackage held nextHeld (.inl below))
  · rintro ⟨package, held⟩ ⟨next, nextHeld⟩ rfl rfl notAbove notBelow
    have otherPackage : package ≠ next := by
      intro same
      subst same
      exact notAbove .refl
    obtain ⟨x, y, part⟩ := wellFormed.exists_partAt notAbove notBelow
    refine ⟨x, y, fun x' y' => ⟨fun other => wellFormed.partAt_unique other part, ?_⟩, ?_⟩
    · rintro ⟨rfl, rfl⟩
      exact part
    · rw [decides, Text.utf8_lt_iff, precedes_iff_of_packages held nextHeld otherPackage]
      exact wellFormed.shownBefore_iff_of_partAt part

/-- The order of a walk, told pair by pair. A program that passes the check is walked in an order
that holds every compiled method once, where it stands, and is the same for every visitor. Of two
places in it, those in one class come in the order of the methods' names and those in one package
in the order of the classes' names. Beneath another package comes before it. Otherwise the packages
part, at one place, into two that have no parent or that one package lists, and the names of these
two decide. -/
theorem walk_order_pairwise (program : Program) (accepted : program.check = .ok ()) :
    ∃ order, program.WalkOrder program.roots order ∧
      order.Perm program.compiledOccurrences ∧ order.Nodup ∧
      (∀ (m : Type → Type) [Monad m] [LawfulMonad m] (visitor : Visitor m),
        program.walk visitor = (do
          visitor.reset
          order.forM fun occurrence => visitor.visit occurrence.method
          pure (.ok ()))) ∧
      ∀ first ∈ order, ∀ second ∈ order, first ≠ second →
        program.KeepsRules order first second := by
  have wellFormed := wellFormed_of_check accepted
  obtain ⟨order, walkOrder, follows⟩ := exists_walkOrder accepted
  have perm := walkOrder.perm_of_check accepted
  have once := (nodup_occurrences wellFormed.orderly).filter (·.method.isCompiled)
  have ordered := walkOrder.pairwise wellFormed.orderly
  refine ⟨order, walkOrder, perm, perm.nodup_iff.mpr once, follows, ?_⟩
  intro first inFirst second inSecond differ
  exact keepsRules_of_pairwise wellFormed ordered inFirst inSecond differ

/-- A package with two children, which it lists in descending order. -/
def forked : Program where
  packages := [
    { name := "a", children := ["a.c", "a.b"] },
    { name := "a.b", parent := some "a",
      classes := [{
        info := { name := "N" }, package := "a.b",
        methods := [{
          member := ⟨"N", "f", "()V"⟩
          instructions := [{ address := 16, mnemonic := "ret" }] }] }] },
    { name := "a.c", parent := some "a",
      classes := [{
        info := { name := "L" }, package := "a.c",
        methods := [{
          member := ⟨"L", "f", "()V"⟩
          instructions := [{ address := 32, mnemonic := "ret" }] }] }] }]
  ascending := by decide

/-- The method of the child with the smaller name comes first, although the child is listed last
and the method's own name is the greater one. -/
theorem order_of_forked :
    forked.check = .ok () ∧ ∃ order, forked.WalkOrder forked.roots order ∧
      ∃ first second, [first, second].Sublist order ∧
        first.method.fullName = "N.f()V" ∧ second.method.fullName = "L.f()V" := by
  have accepted : forked.check = .ok () := by decide +kernel
  obtain ⟨order, walkOrder, perm, _, _, rules⟩ := walk_order_pairwise forked accepted
  let a : forked.Node := ⟨forked.packages[0], List.getElem_mem _⟩
  let b : forked.Node := ⟨forked.packages[1], List.getElem_mem _⟩
  let c : forked.Node := ⟨forked.packages[2], List.getElem_mem _⟩
  have differ : b ≠ c := fun same => absurd (congrArg (·.val.name) same) (by decide)
  have apart {leaf other : forked.Node} (childless : leaf.val.children = [])
      (differ : leaf ≠ other) : ¬ ReflTransGen forked.Lists leaf other := by
    intro below
    rcases ReflTransGen.cases_head below with same | ⟨_, listed, _⟩
    · exact differ same
    · simp [Lists, childless] at listed
  have part : forked.PartAt b c b c :=
    ⟨⟨differ, .inr ⟨a, .tail _ (.head _), .head _⟩⟩, .refl, .refl⟩
  have shown {occurrence : Occurrence} (mem : occurrence ∈ forked.compiledOccurrences) :
      occurrence ∈ order := perm.mem_iff.mpr mem
  have keeps := rules _ (shown (.head _)) _ (shown (.tail _ (.head _))) (by simp)
  obtain ⟨x, y, only, decides⟩ := keeps.apart b c rfl rfl (apart rfl differ) (apart rfl differ.symm)
  obtain ⟨rfl, rfl⟩ := (only b c).mp part
  exact ⟨accepted, order, walkOrder, _, _, decides.mpr (Text.utf8_lt_iff.mpr (by decide)), rfl, rfl⟩

end Program

end Devirt
