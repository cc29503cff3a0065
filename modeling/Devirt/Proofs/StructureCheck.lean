import Devirt.Proofs.PackageSearch

/-!
# The structure check decides well-formedness

A program passes the check of its structure exactly when it is well formed. What the check
establishes does not depend on which packages are taken as roots: every package is in order,
beneath every package the links end, and every package lies beneath a root. With the roots that
have no parent this is well-formedness.
-/

namespace Devirt.Program

open Relation

variable {program : Program}

/-- The check passes when the search from the roots succeeds and reaches every package. -/
theorem checkFrom_eq_ok_iff {roots : List program.Node} :
    program.checkFrom roots = .ok () ↔
      ∃ reached, (sortOn (·.val.name) roots).foldlM (program.checkPackage []) [] = .ok reached ∧
        ∀ node : program.Node, node.val.name ∈ reached := by
  rw [checkFrom, bind_eq_ok_iff]
  refine exists_congr fun reached => and_congr_right fun _ => ?_
  cases left : program.nodes.find? (·.val.name ∉ reached) with
  | none =>
    have all : ∀ node : program.Node, node.val.name ∈ reached := fun node => by
      simpa using List.find?_eq_none.mp left node (List.mem_attach _ _)
    simp [all]
  | some node =>
    have missing : node.val.name ∉ reached := by simpa using List.find?_some left
    simp only [reduceCtorEq, false_iff, not_forall]
    exact ⟨node, missing⟩

/-- What a passed check establishes of every package, whatever the roots are. -/
theorem of_checkFrom_eq_ok {roots : List program.Node} (passed : program.checkFrom roots = .ok ())
    (node : program.Node) :
    program.Orderly node ∧ program.Grounded node ∧
      ∃ root ∈ roots, ReflTransGen program.Lists root node := by
  obtain ⟨reached, found, all⟩ := checkFrom_eq_ok_iff.mp passed
  have covers := covers_of_foldlM checkPackage_covers found
  obtain ⟨orderly, _, root, mem, below⟩ := covers.taken node (all node) List.not_mem_nil
  have grounded := covers.grounded (fun _ start => absurd start List.not_mem_nil) node (all node)
  exact ⟨orderly, grounded.resolve_left List.not_mem_nil, root,
    (sortOn_perm _ roots).mem_iff.mp mem, below⟩

/-- A program that passes the check is well formed. -/
theorem wellFormed_of_check (passed : program.check = .ok ()) : program.WellFormed where
  orderly node := (of_checkFrom_eq_ok passed node).1
  reachable node := by
    obtain ⟨_, _, root, mem, below⟩ := of_checkFrom_eq_ok passed node
    exact ⟨root, mem_roots.mp mem, below⟩

/-- A well-formed program passes the check. -/
theorem check_of_wellFormed (wellFormed : program.WellFormed) : program.check = .ok () := by
  have total (root : program.Node) (_ : root ∈ sortOn (·.val.name) program.roots)
      (start : List String) : ∃ next, program.checkPackage [] start root = .ok next :=
    exists_checkPackage_eq_ok wellFormed.orderly wellFormed.not_cyclic (by simp) start
  obtain ⟨reached, found⟩ := exists_foldlM_eq_ok total []
  have covers := covers_of_foldlM checkPackage_covers found
  refine checkFrom_eq_ok_iff.mpr ⟨reached, found, fun node => ?_⟩
  obtain ⟨root, noParent, below⟩ := wellFormed.reachable node
  exact covers.reaches ((sortOn_perm _ _).mem_iff.mpr (mem_roots.mpr noParent)) below

/-- Beneath every package of a well-formed program the links end. -/
theorem WellFormed.grounded (wellFormed : program.WellFormed) (node : program.Node) :
    program.Grounded node :=
  (of_checkFrom_eq_ok (check_of_wellFormed wellFormed) node).2.1

/-- The check decides well-formedness. A program that passes has no cycle of child links and
none of parent links, and no well-formed program is refused for a cycle. -/
theorem check_decides_wellFormed (program : Program) :
    (program.check = .ok () ↔ program.WellFormed) ∧
      (program.check = .ok () → ∀ node : program.Node,
        ¬ TransGen program.Lists node node ∧ ¬ TransGen program.Declares node node) ∧
      (program.WellFormed → ∀ name, program.check ≠ .error (.cyclicPackage name)) := by
  refine ⟨⟨wellFormed_of_check, check_of_wellFormed⟩, fun passed node => ?_,
    fun wellFormed name => ?_⟩
  · have wellFormed := wellFormed_of_check passed
    exact ⟨wellFormed.not_cyclic node, wellFormed.not_cyclic_declares node⟩
  · rw [check_of_wellFormed wellFormed]
    exact nofun

end Devirt.Program
