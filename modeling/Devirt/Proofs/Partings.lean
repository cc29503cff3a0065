import Devirt.Proofs.Descent
import Devirt.Proofs.StructureCheck

/-!
# Where packages part

Two packages of a well-formed program neither of which lies above the other part at one place: the
packages above them, from the top down, are the same up to some point, and then there are two
different ones, which are two packages without a parent or two children of one package. There is
just one such place.

A descent shows a package before all that lie above it. Packages that part it shows in the order
of the names they part with, because siblings are taken in ascending order of names and all that
lies beneath one of them comes before all that lies beneath the next.
-/

namespace Devirt.Program

open Relation

variable {program : Program}

/-- Two different packages stand side by side: they have no parent, or one package lists both. -/
def Siblings (program : Program) (a b : program.Node) : Prop :=
  a ≠ b ∧ (a.val.parent = none ∧ b.val.parent = none ∨
    ∃ lister, program.Lists lister a ∧ program.Lists lister b)

/-- The packages above two packages, these included, first differ at two siblings: one is above the
first package, the other above the second. -/
structure PartAt (program : Program) (first second a b : program.Node) : Prop where
  siblings : program.Siblings a b
  aboveFirst : ReflTransGen program.Lists a first
  aboveSecond : ReflTransGen program.Lists b second

/-- A descent shows one package before another: the first lies beneath the second, or the first has
the smaller name where they part. -/
def ShownBefore (program : Program) (first second : program.Node) : Prop :=
  TransGen program.Lists second first ∨
    ∃ a b, program.PartAt first second a b ∧ a.val.name < b.val.name

/-- Siblings stand side by side in either order. -/
theorem Siblings.symm {a b : program.Node} (siblings : program.Siblings a b) :
    program.Siblings b a := by
  obtain ⟨differ, noParents | ⟨lister, listsA, listsB⟩⟩ := siblings
  · exact ⟨differ.symm, .inl noParents.symm⟩
  · exact ⟨differ.symm, .inr ⟨lister, listsB, listsA⟩⟩

/-- Two packages part where they part in the other order. -/
theorem PartAt.symm {first second a b : program.Node} (part : program.PartAt first second a b) :
    program.PartAt second first b a :=
  ⟨part.siblings.symm, part.aboveSecond, part.aboveFirst⟩

namespace WellFormed

variable (wellFormed : program.WellFormed) {first second a b : program.Node}
include wellFormed

/-- No sibling lies beneath the other. -/
theorem not_transGen_of_siblings (siblings : program.Siblings a b) :
    ¬ TransGen program.Lists a b := by
  obtain ⟨_, ⟨_, noParent⟩ | ⟨lister, listsA, listsB⟩⟩ := siblings
  · exact not_transGen_of_parent_eq_none (wellFormed.agreesBelow a) noParent
  · exact Program.not_transGen_of_siblings (wellFormed.agreesBelow lister)
      (wellFormed.grounded lister) listsA listsB

/-- Nothing lies beneath two siblings. -/
theorem not_below_both (siblings : program.Siblings a b) {node : program.Node}
    (belowA : ReflTransGen program.Lists a node) : ¬ ReflTransGen program.Lists b node :=
  fun belowB => siblings.1 (eq_of_shared_below (wellFormed.agreesBelow a)
    (wellFormed.agreesBelow b) (wellFormed.not_transGen_of_siblings siblings)
    (wellFormed.not_transGen_of_siblings siblings.symm) belowA belowB)

/-- Packages do not part above a place where they part. -/
theorem not_transGen_of_partAt {a' b' : program.Node} (upper : program.PartAt first second a b)
    (lower : program.PartAt first second a' b') : ¬ TransGen program.Lists a a' := by
  intro above
  obtain ⟨lister, toLister, listed⟩ := TransGen.tail'_iff.mp above
  have declared := (wellFormed.orderly lister).declares listed
  obtain ⟨_, ⟨noParent, _⟩ | ⟨other, listsA, listsB⟩⟩ := lower.siblings
  · simp [Declares, noParent] at declared
  · -- The lister of the lower siblings lies beneath `a`, and so do both packages.
    obtain rfl := parent_unique declared ((wellFormed.orderly other).declares listsA)
    exact wellFormed.not_below_both upper.siblings
      (toLister.trans (.head listsB lower.aboveSecond)) upper.aboveSecond

/-- There is one package above the first where two packages part. -/
theorem partAt_unique_first {a' b' : program.Node} (one : program.PartAt first second a b)
    (other : program.PartAt first second a' b') : a = a' := by
  rcases below_or_below (wellFormed.agreesBelow a) (wellFormed.agreesBelow a') one.aboveFirst
    other.aboveFirst with down | up
  · exact ((reflTransGen_iff_eq_or_transGen.mp down).resolve_right
      (wellFormed.not_transGen_of_partAt one other)).symm
  · exact (reflTransGen_iff_eq_or_transGen.mp up).resolve_right
      (wellFormed.not_transGen_of_partAt other one)

/-- Two packages part at one place. -/
theorem partAt_unique {a' b' : program.Node} (one : program.PartAt first second a b)
    (other : program.PartAt first second a' b') : a = a' ∧ b = b' :=
  ⟨wellFormed.partAt_unique_first one other, wellFormed.partAt_unique_first one.symm other.symm⟩

/-- Packages that lie beneath one package, and neither beneath the other, part beneath it. -/
theorem exists_partAt_beneath {top : program.Node}
    (toFirst : ReflTransGen program.Lists top first)
    (toSecond : ReflTransGen program.Lists top second)
    (notAbove : ¬ ReflTransGen program.Lists first second)
    (notBelow : ¬ ReflTransGen program.Lists second first) :
    ∃ a b, program.PartAt first second a b := by
  induction wellFormed.grounded top with
  | intro top _ ih =>
    rcases ReflTransGen.cases_head toFirst with rfl | ⟨a, listsA, aToFirst⟩
    · exact absurd toSecond notAbove
    rcases ReflTransGen.cases_head toSecond with rfl | ⟨b, listsB, bToSecond⟩
    · exact absurd toFirst notBelow
    by_cases same : a = b
    · subst same
      exact ih a listsA aToFirst bToSecond
    · exact ⟨a, b, ⟨same, .inr ⟨top, listsA, listsB⟩⟩, aToFirst, bToSecond⟩

/-- Two packages part unless one lies above the other. -/
theorem exists_partAt (notAbove : ¬ ReflTransGen program.Lists first second)
    (notBelow : ¬ ReflTransGen program.Lists second first) :
    ∃ a b, program.PartAt first second a b := by
  obtain ⟨a, noParentA, toFirst⟩ := wellFormed.reachable first
  obtain ⟨b, noParentB, toSecond⟩ := wellFormed.reachable second
  by_cases same : a = b
  · subst same
    exact wellFormed.exists_partAt_beneath toFirst toSecond notAbove notBelow
  · exact ⟨a, b, ⟨same, .inl ⟨noParentA, noParentB⟩⟩, toFirst, toSecond⟩

/-- A package that lies beneath another does not part from it. -/
theorem not_partAt_of_below (below : ReflTransGen program.Lists second first) :
    ¬ program.PartAt first second a b :=
  fun part => wellFormed.not_below_both part.siblings part.aboveFirst
    (part.aboveSecond.trans below)

/-- Where two packages part decides which is shown before the other. -/
theorem shownBefore_iff_of_partAt (part : program.PartAt first second a b) :
    program.ShownBefore first second ↔ a.val.name < b.val.name := by
  apply Iff.intro
  · intro before
    rcases before with below | ⟨a', b', other, lt⟩
    · exact absurd part (wellFormed.not_partAt_of_below below.to_reflTransGen)
    · obtain ⟨rfl, rfl⟩ := wellFormed.partAt_unique part other
      exact lt
  · exact fun lt => .inr ⟨a, b, part, lt⟩

/-- Of two packages at most one is shown before the other. -/
theorem shownBefore_asymm (before : program.ShownBefore first second) :
    ¬ program.ShownBefore second first := by
  intro after
  rcases before with below | ⟨a, b, part, lt⟩
  · rcases after with above | ⟨_, _, part, _⟩
    · exact wellFormed.not_cyclic first (above.trans below)
    · exact wellFormed.not_partAt_of_below below.to_reflTransGen part.symm
  · exact String.lt_irrefl _ (String.lt_trans lt
      ((wellFormed.shownBefore_iff_of_partAt part.symm).mp after))

end WellFormed

/-- The children of a package are siblings in ascending order. -/
theorem pairwise_siblings_children (node : program.Node) :
    (program.children node).Pairwise fun a b => program.Siblings a b ∧ a.val.name < b.val.name := by
  refine (pairwise_children node).imp_of_mem ?_
  intro a b ha hb lt
  have differ : a ≠ b := fun same => String.lt_irrefl _ (same ▸ lt)
  exact ⟨⟨differ, .inr ⟨node, mem_children.mp ha, mem_children.mp hb⟩⟩, lt⟩

/-- The packages without a parent are siblings, and a walk takes them in ascending order. -/
theorem pairwise_siblings_roots (program : Program) :
    (sortOn (·.val.name) program.roots).Pairwise fun a b =>
      program.Siblings a b ∧ a.val.name < b.val.name := by
  have distinct : (program.roots.map (·.val.name)).Nodup :=
    nodup_roots.map fun _ _ => node_eq_of_name_eq
  refine (pairwise_lt_sortOn distinct).imp_of_mem ?_
  intro a b ha hb lt
  have noParent {root : program.Node} (mem : root ∈ sortOn (·.val.name) program.roots) :
      root.val.parent = none := mem_roots.mp ((sortOn_perm _ _).mem_iff.mp mem)
  have differ : a ≠ b := fun same => String.lt_irrefl _ (same ▸ lt)
  exact ⟨⟨differ, .inl ⟨noParent ha, noParent hb⟩⟩, lt⟩

/-- Descents from siblings in ascending order show packages in the order told, if each does. -/
theorem pairwise_flatMap_descents {tops : List program.Node}
    {below : program.Node → List program.Node}
    (ascending : tops.Pairwise fun a b => program.Siblings a b ∧ a.val.name < b.val.name)
    (descents : ∀ top ∈ tops, program.Descent top (below top))
    (each : ∀ top ∈ tops, (below top).Pairwise program.ShownBefore) :
    (tops.flatMap below).Pairwise program.ShownBefore := by
  refine List.pairwise_flatMap.mpr ⟨each, ascending.imp_of_mem ?_⟩
  intro a b ha hb parts first inA second inB
  obtain ⟨siblings, lt⟩ := parts
  exact .inr ⟨a, b, ⟨siblings, (descents a ha).mem_iff.mp inA, (descents b hb).mem_iff.mp inB⟩, lt⟩

/-- A descent shows packages in the order told. -/
theorem Descent.pairwise {node : program.Node} {shown : List program.Node}
    (descent : program.Descent node shown) : shown.Pairwise program.ShownBefore := by
  induction descent with
  | visit node below each ih =>
    refine List.pairwise_append.mpr ⟨?_, List.pairwise_singleton _ _, ?_⟩
    · exact pairwise_flatMap_descents (pairwise_siblings_children node) each ih
    · intro other beneath last isLast
      obtain ⟨child, mem, beneath⟩ := List.mem_flatMap.mp beneath
      rw [List.mem_singleton.mp isLast]
      exact .inl (TransGen.head' (mem_children.mp mem) ((each child mem).mem_iff.mp beneath))

end Devirt.Program
