import Devirt.Proofs.WalkedMethods

/-!
# Visitors that may fail

A visitor may keep a state, and showing it a method may change that state and may fail. The
failure is an error of the visitor's own, and the state it leaves is kept. Resets do not fail.

What becomes of such a visitor on a walk is told by successive visits alone: it is reset once, and
then the methods of the walk are shown to it until one visit fails. Which methods these are and
their order are fixed by the program. Nothing is assumed of the visitor, so it may well count its
calls or note them down in its state.
-/

namespace Devirt

/-- What a visitor with a state does. A visit gives the error it fails with, if it fails, and in
any case the state it leaves. -/
structure StatefulVisitor (σ ε : Type) where
  reset : σ → σ
  visit : Method → σ → Except ε Unit × σ

namespace StatefulVisitor

variable {σ ε : Type}

/-- The visitor in a monad of states and errors that keeps the state when there is an error. -/
def toVisitor (visitor : StatefulVisitor σ ε) : Visitor (ExceptT ε (StateM σ)) where
  reset := ExceptT.lift (modify visitor.reset)
  visit method := ExceptT.mk fun state => visitor.visit method state

/-- The outcome of a walk and the visitor's state behind it. An error of the visitor stands
outside, the refusal of the program inside. -/
def walk (visitor : StatefulVisitor σ ε) (program : Program) (state : σ) :
    Except ε (Except StructureError Unit) × σ :=
  (program.walk visitor.toVisitor).run.run state

/-- The outcome of visits of the methods, one after the other, and the state behind them. -/
def showAll (visitor : StatefulVisitor σ ε) (methods : List Method) (state : σ) :
    Except ε Unit × σ :=
  (methods.forM visitor.toVisitor.visit).run.run state

/-- Visits of all the methods, one after the other, lead from one state to another, and none of
them fails. -/
inductive Passes (visitor : StatefulVisitor σ ε) : List Method → σ → σ → Prop
  | nil (state : σ) : Passes visitor [] state state
  | cons {method : Method} {rest : List Method} {first middle last : σ}
      (visited : visitor.visit method first = (.ok (), middle))
      (others : Passes visitor rest middle last) : Passes visitor (method :: rest) first last

/-- Visits of the methods, one after the other, stop at one that fails: those of the methods in
front of it have passed. -/
def Stops (visitor : StatefulVisitor σ ε) (methods : List Method) (first : σ) (error : ε)
    (last : σ) : Prop :=
  ∃ before method behind middle, methods = before ++ method :: behind ∧
    visitor.Passes before first middle ∧ visitor.visit method middle = (.error error, last)

/-- A second step is made where the first does not fail, from the state it leaves. -/
theorem run_bind {α β : Type} (act : ExceptT ε (StateM σ) α) (next : α → ExceptT ε (StateM σ) β)
    (state : σ) :
    (act >>= next).run.run state =
      match act.run.run state with
      | (.ok a, middle) => (next a).run.run middle
      | (.error error, middle) => (.error error, middle) := by
  have step : (act >>= next).run.run state =
      StateT.run (ExceptT.bindCont next (act.run.run state).1) (act.run.run state).2 := rfl
  rw [step]
  rcases act.run.run state with ⟨_ | _, middle⟩ <;> rfl

section Visits

variable {visitor : StatefulVisitor σ ε} {method : Method} {rest methods : List Method}
  {first last : σ} {error : ε}

/-- All visits pass when the first does and the others do behind it. -/
theorem passes_cons_iff :
    visitor.Passes (method :: rest) first last ↔
      ∃ middle, visitor.visit method first = (.ok (), middle) ∧
        visitor.Passes rest middle last := by
  apply Iff.intro
  · intro passes
    cases passes with
    | cons visited others => exact ⟨_, visited, others⟩
  · intro parts
    obtain ⟨_, visited, others⟩ := parts
    exact .cons visited others

/-- Visits stop at the first one, or it passes and the others stop behind it. -/
theorem stops_cons_iff :
    visitor.Stops (method :: rest) first error last ↔
      visitor.visit method first = (.error error, last) ∨
        ∃ middle, visitor.visit method first = (.ok (), middle) ∧
          visitor.Stops rest middle error last := by
  apply Iff.intro
  · intro parts
    obtain ⟨before, failing, behind, there, whole, passes, failed⟩ := parts
    cases before with
    | nil =>
      obtain ⟨rfl, rfl⟩ := List.cons.inj whole
      cases passes
      exact .inl failed
    | cons earlier before =>
      obtain ⟨rfl, rfl⟩ := List.cons.inj whole
      obtain ⟨middle, visited, passes⟩ := passes_cons_iff.mp passes
      exact .inr ⟨middle, visited, before, failing, behind, there, rfl, passes, failed⟩
  · intro stops
    rcases stops with failed | ⟨_, visited, before, failing, behind, there, rfl, passes, failed⟩
    · exact ⟨[], method, rest, first, rfl, .nil first, failed⟩
    · exact ⟨method :: before, failing, behind, there, rfl, .cons visited passes, failed⟩

/-- The first visit decides whether the others are made, and from which state. -/
theorem showAll_cons :
    visitor.showAll (method :: rest) first =
      match visitor.visit method first with
      | (.ok (), middle) => visitor.showAll rest middle
      | (.error error, middle) => (.error error, middle) := by
  have shown : (visitor.toVisitor.visit method).run.run first = visitor.visit method first := rfl
  refine (run_bind (visitor.toVisitor.visit method) _ first).trans ?_
  rw [shown]
  rcases visitor.visit method first with ⟨_ | _, middle⟩ <;> rfl

/-- Visits that return a value have all passed. -/
theorem showAll_eq_ok_iff :
    visitor.showAll methods first = (.ok (), last) ↔ visitor.Passes methods first last := by
  induction methods generalizing first with
  | nil =>
    apply Iff.intro
    · intro same
      cases same
      exact .nil _
    · intro passes
      cases passes
      rfl
  | cons method rest ih =>
    rw [showAll_cons, passes_cons_iff]
    rcases visitor.visit method first with ⟨_ | _, middle⟩ <;> simp [ih]

/-- Visits that return an error have stopped with it. -/
theorem showAll_eq_error_iff :
    visitor.showAll methods first = (.error error, last) ↔
      visitor.Stops methods first error last := by
  induction methods generalizing first with
  | nil =>
    apply Iff.intro
    · intro same
      cases same
    · intro stops
      obtain ⟨_, _, _, _, whole, _⟩ := stops
      exact absurd whole (by simp)
  | cons method rest ih =>
    rw [showAll_cons, stops_cons_iff]
    rcases visitor.visit method first with ⟨_ | _, middle⟩ <;> simp [ih]

/-- On a program that passes the check, a visitor is reset and shown the methods of the walk. -/
theorem walk_of_check_eq_ok {program : Program} (accepted : program.check = .ok ())
    (visitor : StatefulVisitor σ ε) (state : σ) :
    visitor.walk program state =
      match visitor.showAll program.walkedMethods (visitor.reset state) with
      | (.ok (), last) => (.ok (.ok ()), last)
      | (.error error, last) => (.error error, last) := by
  obtain ⟨_, _, _, follows⟩ := Program.exists_walkOrder_eq accepted
  rw [walk, follows]
  refine (run_bind (program.walkedMethods.forM visitor.toVisitor.visit) _
    (visitor.reset state)).trans ?_
  rw [← showAll]
  rcases visitor.showAll program.walkedMethods (visitor.reset state) with ⟨_ | _, last⟩ <;> rfl

/-- On a program that is refused, a visitor is not touched. -/
theorem walk_of_check_eq_error {program : Program} {e : StructureError}
    (refused : program.check = .error e) (visitor : StatefulVisitor σ ε) (state : σ) :
    visitor.walk program state = (.ok (.error e), state) := by
  have refused : program.checkFrom program.roots = .error e := refused
  rw [walk, Program.walk, Program.walkFrom, refused]
  rfl

end Visits

end StatefulVisitor

/-- What a walk does to a visitor, whatever its state is and whatever it does at resets and visits.
The program alone fixes the methods that are shown, all that are compiled, each once, and their
order. A walk is refused when the structure is broken, with the defect, and then leaves the state
as it was. Otherwise the visitor is reset once, and the methods are shown to it from left to right:
either all visits pass and the walk ends well, or it ends at the first visit that fails, with the
error and the state of that visit. -/
theorem Program.walk_resets_once_and_stops_at_failure (program : Program) :
    ∃ methods : List Method,
      (program.check = .ok () → methods.Perm program.compiledMethods) ∧
      ∀ (σ ε : Type) (visitor : StatefulVisitor σ ε) (state last : σ),
        (∀ e, visitor.walk program state = (.ok (.error e), last) ↔
          program.check = .error e ∧ last = state) ∧
        (visitor.walk program state = (.ok (.ok ()), last) ↔
          program.check = .ok () ∧ visitor.Passes methods (visitor.reset state) last) ∧
        ∀ error, visitor.walk program state = (.error error, last) ↔
          program.check = .ok () ∧ visitor.Stops methods (visitor.reset state) error last := by
  refine ⟨program.walkedMethods, walkedMethods_perm, fun σ ε visitor state last => ?_⟩
  cases checked : program.check with
  | error e =>
    rw [StatefulVisitor.walk_of_check_eq_error checked]
    simp [eq_comm]
  | ok =>
    rw [StatefulVisitor.walk_of_check_eq_ok checked]
    simp only [← StatefulVisitor.showAll_eq_ok_iff, ← StatefulVisitor.showAll_eq_error_iff]
    rcases visitor.showAll program.walkedMethods (visitor.reset state) with ⟨_ | _, there⟩ <;> simp

end Devirt
