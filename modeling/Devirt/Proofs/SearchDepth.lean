import Devirt.Proofs.WalkedMethods

/-!
# The depth of the searches

Any packages of a program may be handed out as its roots, in any order, more than once, and with
parents. Whichever they are, the check of the structure ends. This is said with searches that
have only so many steps: the search through the children may enter packages within packages only
to a given depth, and the search through the parents may follow only a given number of them.
Beyond that they give up. With one step more than the program has packages they never do.

The bounded searches test nothing that the check does not test, so the tests of the check alone
keep the searches from going on forever. A walk makes none of these tests. After a passed check
its recursion ends all the same: no cycle lies beneath the roots, not even where two roots lead
to the same packages and the check looks at them only once.
-/

namespace Devirt.Program

open Relation

/-- The search through a package, to a depth: beyond it nothing is said. -/
def checkPackageWithin (program : Program) :
    Nat → List String → List String → program.Node → ExceptT StructureError Option (List String)
  | 0, _, _, _ => ExceptT.mk none
  | depth + 1, path, reached, node =>
    if node.val.name ∈ path then throw (.cyclicPackage node.val.name)
    else if node.val.name ∈ reached then return reached
    else do
      node.val.checkClasses [] node.val.classes
      node.val.childNames.foldlM
        (fun reached name => do
          program.checkPackageWithin depth (node.val.name :: path) reached
            (← program.child node.val.name name))
        (node.val.name :: reached)

/-- The search through the parents of a package, in a number of steps. -/
def explainWithin (program : Program) (origin : String) :
    Nat → List String → program.Node → Option StructureError
  | 0, _, _ => none
  | steps + 1, seen, node =>
    match node.val.parent with
    | none => some (.unreachablePackage origin)
    | some parent =>
      if node.val.name ∈ seen then some (.cyclicPackage node.val.name)
      else match program.node? parent with
        | none => some (.missingParent node.val.name parent)
        | some next => program.explainWithin origin steps (node.val.name :: seen) next

/-- The check of the structure with bounded searches. -/
def checkFromWithin (program : Program) (bound : Nat) (roots : List program.Node) :
    ExceptT StructureError Option Unit := do
  let reached ← (sortOn (·.val.name) roots).foldlM (program.checkPackageWithin bound []) []
  match program.nodes.find? (·.val.name ∉ reached) with
  | none => return
  | some node => throw (← program.explainWithin node.val.name bound [] node)

variable {program : Program}

/-- Before the search no package has been left behind. -/
theorem remaining_nil (program : Program) : program.remaining [] = program.packages.length := by
  simp [remaining]

/-- A bounded passage through a list whose steps all end is the passage itself. -/
theorem foldlM_eq_lift {α β ε : Type} {step : β → α → Except ε β}
    {bounded : β → α → ExceptT ε Option β} {xs : List α}
    (each : ∀ x ∈ xs, ∀ start, bounded start x = liftM (step start x)) (start : β) :
    xs.foldlM bounded start = liftM (xs.foldlM step start) := by
  induction xs generalizing start with
  | nil => rfl
  | cons x rest ih =>
    have others := ih fun y mem => each y (List.mem_cons_of_mem _ mem)
    rw [List.foldlM_cons, List.foldlM_cons, liftM_bind, each x List.mem_cons_self]
    exact bind_congr others

/-- With more steps than packages off the path the search ends, with the answer of the check. -/
theorem checkPackageWithin_eq {depth : Nat} {path : List String}
    (enough : program.remaining path < depth) (reached : List String) (node : program.Node) :
    program.checkPackageWithin depth path reached node =
      liftM (program.checkPackage path reached node) := by
  induction depth generalizing path reached node with
  | zero => exact absurd enough (Nat.not_lt_zero _)
  | succ depth ih =>
    rw [checkPackageWithin, checkPackage]
    by_cases onPath : node.val.name ∈ path
    · rw [if_pos onPath, dif_pos onPath]
      rfl
    by_cases again : node.val.name ∈ reached
    · rw [if_neg onPath, dif_neg onPath, if_pos again, if_pos again]
      rfl
    rw [if_neg onPath, dif_neg onPath, if_neg again, if_neg again]
    -- The path grows by a name that is new to it, so the steps that are left still suffice.
    have fewer := program.remaining_cons_lt node onPath
    cases node.val.checkClasses [] node.val.classes with
    | error e => rfl
    | ok _ =>
      refine foldlM_eq_lift (fun name _ start => ?_) _
      cases program.child node.val.name name with
      | error e => rfl
      | ok child => exact ih (by omega) start child

/-- With more steps than packages not yet seen the search through the parents ends, with the
answer of the check. -/
theorem explainWithin_eq {steps : Nat} {seen : List String}
    (enough : program.remaining seen < steps) (origin : String) (node : program.Node) :
    program.explainWithin origin steps seen node =
      some (program.explainUnreached origin seen node) := by
  induction steps generalizing seen node with
  | zero => exact absurd enough (Nat.not_lt_zero _)
  | succ steps ih =>
    rw [explainWithin, explainUnreached]
    cases node.val.parent with
    | none => rfl
    | some parent =>
      by_cases again : node.val.name ∈ seen
      · simp [again]
      · have fewer := program.remaining_cons_lt node again
        simp only [again, if_false, dite_false]
        cases program.node? parent with
        | none => rfl
        | some next => exact ih (by omega) next

/-- With more steps than packages the check ends. -/
theorem checkFromWithin_eq {bound : Nat} (enough : program.packages.length < bound)
    (roots : List program.Node) :
    program.checkFromWithin bound roots = liftM (program.checkFrom roots) := by
  rw [← program.remaining_nil] at enough
  rw [checkFromWithin, checkFrom, liftM_bind,
    foldlM_eq_lift fun root _ start => checkPackageWithin_eq enough start root]
  refine bind_congr fun reached => ?_
  simp only [explainWithin_eq enough]
  cases program.nodes.find? (·.val.name ∉ reached) with
  | none => rfl
  | some node => rfl

/-- The check of the structure protects the walk, whichever packages are handed out as roots. It
ends: its searches never go further than the number of packages. Once it has passed, no cycle of
child links lies beneath the roots, and the walk comes to an end although it looks for none: it
follows descents from the roots. It shows every method with an instruction and no other, and shows
each exactly once if the roots are distinct and have no parents. -/
theorem check_protects_walk (program : Program) (roots : List program.Node) :
    (∀ bound, program.packages.length < bound →
        program.checkFromWithin bound roots = ExceptT.mk (some (program.checkFrom roots))) ∧
      (program.checkFrom roots = .ok () →
        (∀ root ∈ roots, ∀ node, ReflTransGen program.Lists root node →
          ¬ TransGen program.Lists node node) ∧
        ∃ order, program.WalkOrder roots order ∧
          (∀ (m : Type → Type) [Monad m] [LawfulMonad m] (visitor : Visitor m),
            program.walkFrom roots visitor = (do
              visitor.reset
              order.forM fun occurrence => visitor.visit occurrence.method
              pure (.ok ()))) ∧
          (∀ occurrence, occurrence ∈ order ↔
            occurrence ∈ program.occurrences ∧ occurrence.method.instructions ≠ []) ∧
          (roots.Nodup → (∀ root ∈ roots, root.val.parent = none) →
            order.Perm (program.occurrences.filter fun occurrence =>
              occurrence.method.instructions ≠ []) ∧ order.Nodup)) := by
  refine ⟨fun bound enough => checkFromWithin_eq enough roots, fun passed => ⟨?_, ?_⟩⟩
  · intro root _ node _
    exact (of_checkFrom_eq_ok passed node).2.1.not_cyclic
  · obtain ⟨order, walkOrder, follows⟩ := exists_walkOrder passed
    have shown (occurrence : Occurrence) : occurrence ∈ order ↔
        occurrence ∈ program.occurrences ∧ occurrence.method.instructions ≠ [] := by
      rw [walkOrder.mem_iff passed, compiledOccurrences_eq, List.mem_filter, decide_eq_true_eq]
    refine ⟨order, walkOrder, follows, shown, fun distinct noParent => ?_⟩
    have perm := walkOrder.perm passed distinct noParent
    rw [compiledOccurrences_eq] at perm
    have once := nodup_occurrences fun node => (of_checkFrom_eq_ok passed node).1
    exact ⟨perm, perm.nodup_iff.mpr (once.filter _)⟩

/-- With a package and its child as roots, the child twice, the check passes within a bound of
three. The walk comes to the child three times and shows its compiled method each time. -/
theorem walk_of_overlappingRoots :
    let roots := twiceListed.nodes ++ twiceListed.nodes.drop 1
    twiceListed.checkFromWithin 3 roots = ExceptT.mk (some (.ok ())) ∧
      ∃ order, twiceListed.WalkOrder roots order ∧
        order.map (·.method.fullName) =
          ["a.b.N.f()V", "a.M.f()V", "a.b.N.f()V", "a.b.N.f()V"] ∧
        ∀ occurrence, occurrence ∈ order ↔
          occurrence ∈ twiceListed.occurrences ∧ occurrence.method.instructions ≠ [] := by
  intro roots
  obtain ⟨ends, protects⟩ := check_protects_walk twiceListed roots
  have sorted : sortOn (·.val.name) roots = roots := List.mergeSort_of_pairwise (by decide +kernel)
  have passed : twiceListed.checkFrom roots = .ok () := by
    rw [checkFrom, sorted]
    decide +kernel
  obtain ⟨_, order, walkOrder, follows, shown, _⟩ := protects passed
  have noted : ((twiceListed.walkFrom roots notes).run []).2 = order.map (·.method) := by
    have methods : (order.map (·.method)).forM notes.visit =
        order.forM fun occurrence => notes.visit occurrence.method := List.forM_map
    rw [follows, ← methods, snd_run_notes]
  have names : (order.map (·.method)).map (·.fullName) =
      ["a.b.N.f()V", "a.M.f()V", "a.b.N.f()V", "a.b.N.f()V"] := by
    rw [← noted, walkFrom, passed, sorted]
    decide +kernel
  rw [List.map_map] at names
  exact ⟨passed ▸ ends 3 (by decide), order, walkOrder, names, shown⟩

end Devirt.Program
