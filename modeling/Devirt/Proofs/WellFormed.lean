import Mathlib.Data.List.Nodup
import Devirt.Proofs.Outcome
import Devirt.Proofs.PackageLinks

/-!
# Well-formed programs

What the structure of a program has to be, said without the search that checks it. Containers
hold only what says it belongs there, and nothing twice; listed children exist and name their
lister as parent; every package lies beneath one that has no parent.

The checks of one container's contents decide their share of this. That no link closes a cycle
is no further condition: going up from a package leads along one chain to the top, and a cycle
has no top.
-/

namespace Devirt

open Relation

/-- A class holds methods of its own, no two of one name. -/
structure LoadedClass.HoldsOwn (loaded : LoadedClass) : Prop where
  distinct : (loaded.methods.map (·.fullName)).Nodup
  own : ∀ method ∈ loaded.methods, method.member.className = loaded.name

/-- A package holds classes of its own, no two of one name, and each of them its own methods. -/
structure Package.HoldsOwn (package : Package) : Prop where
  distinct : (package.classes.map (·.name)).Nodup
  own : ∀ loaded ∈ package.classes, loaded.package = package.name
  classes : ∀ loaded ∈ package.classes, loaded.HoldsOwn

namespace Program

variable {program : Program}

/-- A package in order: its contents are its own, and every name it lists is the name of a
package that names it as parent. -/
structure Orderly (program : Program) (node : program.Node) : Prop where
  contents : node.val.HoldsOwn
  children : ∀ name ∈ node.val.children, ∃ child : program.Node,
    child.val.name = name ∧ program.Declares child node

/-- A well-formed program: every package is in order and lies beneath one without a parent. -/
structure WellFormed (program : Program) : Prop where
  orderly : ∀ node, program.Orderly node
  reachable : ∀ node : program.Node, ∃ root : program.Node,
    root.val.parent = none ∧ ReflTransGen program.Lists root node

end Program

/-- Entries with distinct names, none of them seen before, that all belong. -/
def Admitted {α : Type} (name : α → String) (belongs : α → Prop) (seen : List String)
    (entries : List α) : Prop :=
  (entries.map name).Nodup ∧ ∀ entry ∈ entries, name entry ∉ seen ∧ belongs entry

/-- A list is admitted entry by entry, when the names of earlier entries count as seen. -/
theorem admitted_cons {α : Type} {name : α → String} {belongs : α → Prop} {seen : List String}
    {first : α} {rest : List α} :
    Admitted name belongs seen (first :: rest) ↔
      name first ∉ seen ∧ belongs first ∧ Admitted name belongs (name first :: seen) rest := by
  rw [Admitted, List.forall_mem_cons]
  simp only [Admitted, List.map_cons, List.nodup_cons, List.mem_map, List.mem_cons, not_or,
    not_exists, not_and]
  apply Iff.intro
  · intro parts
    obtain ⟨⟨differ, distinct⟩, ⟨fresh, first⟩, others⟩ := parts
    exact ⟨fresh, first, distinct, fun other mem =>
      ⟨⟨differ other mem, (others other mem).1⟩, (others other mem).2⟩⟩
  · intro parts
    obtain ⟨fresh, first, distinct, others⟩ := parts
    exact ⟨⟨fun other mem => (others other mem).1.1, distinct⟩, ⟨fresh, first⟩,
      fun other mem => ⟨(others other mem).1.2, (others other mem).2⟩⟩

/-- The check of methods decides that they are distinct, unseen, and the class's own. -/
theorem LoadedClass.checkMethods_eq_ok_iff (loaded : LoadedClass) (seen : List String)
    (methods : List Method) :
    loaded.checkMethods seen methods = .ok () ↔
      Admitted Method.fullName (fun method => method.member.className = loaded.name)
        seen methods := by
  induction methods generalizing seen with
  | nil => simp [checkMethods, Admitted]
  | cons method rest ih =>
    rw [admitted_cons, checkMethods]
    split
    · rename_i repeated
      simp [repeated]
    · rename_i fresh
      split
      · rename_i foreign
        simp [foreign]
      · rename_i own
        rw [ih]
        exact ⟨fun admitted => ⟨fresh, not_not.mp own, admitted⟩, fun parts => parts.2.2⟩

/-- The check of a class decides that it holds methods of its own. -/
theorem LoadedClass.check_eq_ok_iff (loaded : LoadedClass) :
    loaded.checkMethods [] loaded.methods = .ok () ↔ loaded.HoldsOwn := by
  rw [checkMethods_eq_ok_iff]
  apply Iff.intro
  · intro parts
    obtain ⟨distinct, admitted⟩ := parts
    exact ⟨distinct, fun method mem => (admitted method mem).2⟩
  · intro parts
    obtain ⟨distinct, own⟩ := parts
    exact ⟨distinct, fun method mem => ⟨List.not_mem_nil, own method mem⟩⟩

/-- The check of classes decides that they are distinct, unseen, the package's own, and in order. -/
theorem Package.checkClasses_eq_ok_iff (package : Package) (seen : List String)
    (classes : List LoadedClass) :
    package.checkClasses seen classes = .ok () ↔
      Admitted LoadedClass.name (fun loaded => loaded.package = package.name ∧ loaded.HoldsOwn)
        seen classes := by
  induction classes generalizing seen with
  | nil => simp [checkClasses, Admitted]
  | cons loaded rest ih =>
    rw [admitted_cons, checkClasses]
    split
    · rename_i repeated
      simp [repeated]
    · rename_i fresh
      split
      · rename_i foreign
        simp [foreign]
      · rename_i own
        rw [bind_eq_ok_iff, ← loaded.check_eq_ok_iff]
        apply Iff.intro
        · intro parts
          obtain ⟨_, methods, passed⟩ := parts
          exact ⟨fresh, ⟨not_not.mp own, methods⟩, (ih _).mp passed⟩
        · intro parts
          obtain ⟨_, ⟨_, methods⟩, admitted⟩ := parts
          exact ⟨(), methods, (ih _).mpr admitted⟩

/-- The check of a package's contents decides that they are its own. -/
theorem Package.check_eq_ok_iff (package : Package) :
    package.checkClasses [] package.classes = .ok () ↔ package.HoldsOwn := by
  rw [checkClasses_eq_ok_iff]
  apply Iff.intro
  · intro parts
    obtain ⟨distinct, admitted⟩ := parts
    exact ⟨distinct, fun loaded mem => (admitted loaded mem).2.1,
      fun loaded mem => (admitted loaded mem).2.2⟩
  · intro parts
    obtain ⟨distinct, own, classes⟩ := parts
    exact ⟨distinct, fun loaded mem => ⟨List.not_mem_nil, own loaded mem, classes loaded mem⟩⟩

namespace Program

variable {program : Program}

/-- In an orderly package a listed child names its lister as parent. -/
theorem Orderly.declares {node child : program.Node} (orderly : program.Orderly node)
    (listed : program.Lists node child) : program.Declares child node := by
  obtain ⟨other, same, declared⟩ := orderly.children _ listed
  exact node_eq_of_name_eq same ▸ declared

namespace WellFormed

/-- In a well-formed program children and parents agree everywhere. -/
theorem agreesBelow (wellFormed : program.WellFormed) (top : program.Node) :
    program.AgreesBelow top :=
  fun parent _ _ listed => (wellFormed.orderly parent).declares listed

/-- In a well-formed program no chain of child links closes a cycle. -/
theorem not_cyclic (wellFormed : program.WellFormed) (node : program.Node) :
    ¬ TransGen program.Lists node node := by
  obtain ⟨root, noParent, below⟩ := wellFormed.reachable node
  induction below with
  | refl => exact not_transGen_of_parent_eq_none (wellFormed.agreesBelow root) noParent
  | @tail upper lower _ listed ih =>
    intro cycle
    obtain ⟨last, toLast, closes⟩ := TransGen.tail'_iff.mp cycle
    have same : last = upper := parent_unique ((wellFormed.orderly last).declares closes)
      ((wellFormed.orderly upper).declares listed)
    exact ih (TransGen.head' listed (same ▸ toLast))

/-- In a well-formed program a named parent lists the package that names it. -/
theorem lists_of_declares (wellFormed : program.WellFormed) {child parent : program.Node}
    (declared : program.Declares child parent) : program.Lists parent child := by
  obtain ⟨root, noParent, below⟩ := wellFormed.reachable child
  rcases ReflTransGen.cases_tail below with same | ⟨lister, _, listed⟩
  · subst same
    simp [Declares, noParent] at declared
  · exact parent_unique declared ((wellFormed.orderly lister).declares listed) ▸ listed

/-- In a well-formed program no chain of parent links closes a cycle. -/
theorem not_cyclic_declares (wellFormed : program.WellFormed) (node : program.Node) :
    ¬ TransGen program.Declares node node := by
  intro cycle
  have turned : TransGen (Function.swap program.Lists) node node :=
    TransGen.mono (fun _ _ => wellFormed.lists_of_declares) node node cycle
  exact wellFormed.not_cyclic node (transGen_swap.mp turned)

end WellFormed

end Program

end Devirt
