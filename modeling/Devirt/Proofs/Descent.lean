import Devirt.Proofs.PackageLinks

/-!
# Descents through the packages

A descent shows all packages beneath a package, children first and the package itself last. It
is the plain recursion over child links: it keeps no path and no set of packages shown before,
so beneath a cycle it never comes to an end, and a package with two listers would be shown
twice. Beneath a grounded package it does end, and where children name their listers as parents
it shows each package once.
-/

namespace Devirt.Program

open Relation

variable {program : Program}

/-- The descent from a package ends, having shown these packages. -/
inductive Descent (program : Program) : program.Node → List program.Node → Prop
  | visit (node : program.Node) (below : program.Node → List program.Node)
      (each : ∀ child ∈ program.children node, Descent program child (below child)) :
      Descent program node ((program.children node).flatMap below ++ [node])

/-- The descent from a grounded package ends. -/
theorem Grounded.exists_descent {node : program.Node} (grounded : program.Grounded node) :
    ∃ shown, program.Descent node shown := by
  induction grounded with
  | intro node _ ih =>
    have each (child : program.Node) : ∃ shown, child ∈ program.children node →
        program.Descent child shown := by
      by_cases mem : child ∈ program.children node
      · obtain ⟨shown, descent⟩ := ih child (mem_children.mp mem)
        exact ⟨shown, fun _ => descent⟩
      · exact ⟨[], fun absurd => (mem absurd).elim⟩
    choose below each using each
    exact ⟨_, .visit node below each⟩

/-- A descent shows what lies beneath its start, and nothing else. -/
theorem Descent.mem_iff {node other : program.Node} {shown : List program.Node}
    (descent : program.Descent node shown) :
    other ∈ shown ↔ ReflTransGen program.Lists node other := by
  induction descent with
  | visit node below each ih =>
    rw [List.mem_append, List.mem_flatMap, List.mem_singleton]
    apply Iff.intro
    · intro found
      rcases found with ⟨child, mem, beneath⟩ | same
      · exact .head (mem_children.mp mem) ((ih child mem).mp beneath)
      · exact same ▸ .refl
    · intro beneath
      rcases ReflTransGen.cases_head beneath with same | ⟨child, listed, beneath⟩
      · exact .inr same.symm
      · have mem := mem_children.mpr listed
        exact .inl ⟨child, mem, (ih child mem).mpr beneath⟩

/-- Descents from packages none of which lies properly beneath another show each package once,
if each of them does. -/
theorem nodup_flatMap_descents {tops : List program.Node} {below : program.Node → List program.Node}
    (distinct : tops.Nodup) (descents : ∀ top ∈ tops, program.Descent top (below top))
    (agrees : ∀ top ∈ tops, program.AgreesBelow top)
    (apart : ∀ a ∈ tops, ∀ b ∈ tops, ¬ TransGen program.Lists a b)
    (once : ∀ top ∈ tops, (below top).Nodup) : (tops.flatMap below).Nodup := by
  refine List.nodup_flatMap.mpr ⟨once, distinct.pairwise_of_forall_ne ?_⟩
  intro a ha b hb differ shared inA inB
  exact differ (eq_of_shared_below (agrees a ha) (agrees b hb) (apart a ha b hb) (apart b hb a ha)
    ((descents a ha).mem_iff.mp inA) ((descents b hb).mem_iff.mp inB))

/-- A descent shows each package once. -/
theorem Descent.nodup {node : program.Node} {shown : List program.Node}
    (descent : program.Descent node shown) (agrees : program.AgreesBelow node)
    (grounded : program.Grounded node) : shown.Nodup := by
  induction descent with
  | visit node below each ih =>
    have single {child : program.Node} (mem : child ∈ program.children node) :=
      ReflTransGen.single (mem_children.mp mem)
    have children : ((program.children node).flatMap below).Nodup :=
      nodup_flatMap_descents (nodup_children node) each
        (fun child mem => agrees.below (single mem))
        (fun a ha b hb => not_transGen_of_siblings agrees grounded (mem_children.mp ha)
          (mem_children.mp hb))
        fun child mem => ih child mem (agrees.below (single mem)) (grounded.below (single mem))
    refine List.nodup_append.mpr ⟨children, List.nodup_singleton node, ?_⟩
    intro other beneath last isLast same
    obtain ⟨child, mem, beneath⟩ := List.mem_flatMap.mp beneath
    rw [same, List.mem_singleton.mp isLast] at beneath
    exact grounded.not_cyclic
      (TransGen.head' (mem_children.mp mem) ((each child mem).mem_iff.mp beneath))

end Devirt.Program
