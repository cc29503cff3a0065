import Devirt.Proofs.WalkOrder

/-!
# The methods of a walk

A visitor that only notes down what it is shown tells which methods a walk shows and in which
order. They are the compiled methods of the program, each of them once. Every other visitor of
the program is shown the same methods in the same order, whatever it does with them.

A program that is refused has no walk, so nothing is noted down.
-/

namespace Devirt.Program

variable {program : Program}

/-- The visitor that notes down the methods it is shown. -/
def notes : Visitor (StateM (List Method)) where
  reset := modify fun _ => []
  visit method := modify (· ++ [method])

/-- The methods that a walk shows, in its order. -/
def walkedMethods (program : Program) : List Method := ((program.walk notes).run []).2

/-- The methods with native code, in the order of the packages. -/
def compiledMethods (program : Program) : List Method := program.methods.filter (·.isCompiled)

/-- The compiled methods are those of the compiled occurrences. -/
theorem map_method_compiledOccurrences (program : Program) :
    program.compiledOccurrences.map (·.method) = program.compiledMethods := by
  have all : program.occurrences.map (·.method) = program.methods := by
    simp [occurrences, Package.occurrences, methods, classes, List.map_flatMap,
      List.flatMap_assoc, Function.comp_def]
  rw [compiledMethods, ← all, compiledOccurrences, List.filter_map]
  rfl

/-- Methods shown one after the other are noted down one behind the other. -/
theorem run_forM_notes (methods noted : List Method) :
    (methods.forM notes.visit).run noted = ((), noted ++ methods) := by
  induction methods generalizing noted with
  | nil => rw [List.append_nil]; rfl
  | cons method rest ih =>
    have step := ih (noted ++ [method])
    rw [List.append_assoc] at step
    exact step

/-- Behind a reset what is noted down is the methods that are shown. -/
theorem snd_run_notes (methods : List Method) :
    (((do
      notes.reset
      methods.forM notes.visit
      pure (.ok ())) : StateM (List Method) (Except StructureError Unit)).run []).2 = methods := by
  change ((StateT.run (methods.forM notes.visit) []).2 : List Method) = _
  rw [run_forM_notes]
  rfl

/-- What is noted down is the walk's order, and every visitor follows it. -/
theorem exists_walkOrder_eq (accepted : program.check = .ok ()) :
    ∃ order, program.WalkOrder program.roots order ∧
      order.map (·.method) = program.walkedMethods ∧
      ∀ (m : Type → Type) [Monad m] [LawfulMonad m] (visitor : Visitor m),
        program.walk visitor = (do
          visitor.reset
          program.walkedMethods.forM visitor.visit
          pure (.ok ())) := by
  obtain ⟨order, walkOrder, follows⟩ := exists_walkOrder accepted
  have follows (m : Type → Type) [Monad m] [LawfulMonad m] (visitor : Visitor m) :
      program.walk visitor = (do
        visitor.reset
        (order.map (·.method)).forM visitor.visit
        pure (.ok ())) := by
    have shown : (order.map (·.method)).forM visitor.visit =
        order.forM fun occurrence => visitor.visit occurrence.method := List.forM_map
    rw [walk, follows, shown]
  have noted : program.walkedMethods = order.map (·.method) := by
    rw [walkedMethods, follows, snd_run_notes]
  rw [noted]
  exact ⟨order, walkOrder, rfl, fun m _ _ visitor => follows m visitor⟩

/-- A walk shows the compiled methods, each of them once. -/
theorem walkedMethods_perm (accepted : program.check = .ok ()) :
    program.walkedMethods.Perm program.compiledMethods := by
  obtain ⟨order, walkOrder, noted, _⟩ := exists_walkOrder_eq accepted
  rw [← noted, ← map_method_compiledOccurrences]
  exact (walkOrder.perm_of_check accepted).map _

end Devirt.Program
