import Mathlib.Data.List.Basic
import Mathlib.Data.List.Forall2

/-!
# Computations that may fail

A computation made of steps succeeds when each step does. The first step that fails decides the
error, so success of the whole says what each step returned.

What a computation fails with can be said by the list of all faults in its input, in the order it
would meet them: it reports the first of them. Such lists are put together step by step, just as
the computation is.
-/

namespace Devirt

variable {α β ε : Type}

/-- A computation of two steps succeeds when both do. -/
theorem bind_eq_ok_iff {first : Except ε α} {next : α → Except ε β} {b : β} :
    (first >>= next) = .ok b ↔ ∃ a, first = .ok a ∧ next a = .ok b := by
  cases first with
  | error e => simp [bind, Except.bind]
  | ok a => simp [bind, Except.bind]

/-- A computation of two steps fails when the first does, or the second behind it. -/
theorem bind_eq_error_iff {first : Except ε α} {next : α → Except ε β} {e : ε} :
    (first >>= next) = .error e ↔ first = .error e ∨ ∃ a, first = .ok a ∧ next a = .error e := by
  cases first with
  | error _ => simp [bind, Except.bind]
  | ok a => simp [bind, Except.bind]

/-- Passing through an empty list changes nothing. -/
theorem foldlM_nil_eq_ok_iff {step : β → α → Except ε β} {start last : β} :
    ([] : List α).foldlM step start = .ok last ↔ start = last := by
  simp [pure, Except.pure]

/-- Passing through a list succeeds when its first step and the passage through the rest do. -/
theorem foldlM_cons_eq_ok_iff {step : β → α → Except ε β} {x : α} {rest : List α} {start last : β} :
    (x :: rest).foldlM step start = .ok last ↔
      ∃ middle, step start x = .ok middle ∧ rest.foldlM step middle = .ok last := by
  rw [List.foldlM_cons, bind_eq_ok_iff]

/-- A passage through a list fails because one of its steps does. -/
theorem exists_of_foldlM_eq_error {step : β → α → Except ε β} {xs : List α} {start : β} {e : ε}
    (failed : xs.foldlM step start = .error e) : ∃ x ∈ xs, ∃ middle, step middle x = .error e := by
  induction xs generalizing start with
  | nil => cases failed
  | cons x rest ih =>
    rw [List.foldlM_cons] at failed
    rcases bind_eq_error_iff.mp failed with first | ⟨middle, _, later⟩
    · exact ⟨x, List.mem_cons_self, start, first⟩
    · obtain ⟨y, mem, there, failed⟩ := ih later
      exact ⟨y, List.mem_cons_of_mem _ mem, there, failed⟩

/-- Steps that never fail pass through the whole list. -/
theorem exists_foldlM_eq_ok {step : β → α → Except ε β} {xs : List α}
    (total : ∀ x ∈ xs, ∀ start, ∃ next, step start x = .ok next) (start : β) :
    ∃ last, xs.foldlM step start = .ok last := by
  induction xs generalizing start with
  | nil => exact ⟨start, rfl⟩
  | cons x rest ih =>
    obtain ⟨next, first⟩ := total x List.mem_cons_self start
    obtain ⟨last, later⟩ := ih (fun y mem => total y (List.mem_cons_of_mem _ mem)) next
    exact ⟨last, foldlM_cons_eq_ok_iff.mpr ⟨next, first, later⟩⟩

/-- Of the faults, in order, the computation fails with the first. Without any it returns a value
that is good. -/
def Reports (faults : List ε) (good : α → Prop) (outcome : Except ε α) : Prop :=
  match faults with
  | [] => ∃ a, outcome = .ok a ∧ good a
  | first :: _ => outcome = .error first

namespace Reports

variable {faults later : List ε} {good : α → Prop} {better : β → Prop} {outcome : Except ε α}

/-- A returned value is good. -/
theorem good_of_eq_ok (reports : Reports faults good outcome) {a : α} (returned : outcome = .ok a) :
    good a := by
  subst returned
  cases faults with
  | nil =>
    obtain ⟨b, same, good⟩ := reports
    exact Except.ok.inj same ▸ good
  | cons first rest => cases reports

/-- A value is returned exactly when there are no faults. -/
theorem exists_eq_ok_iff (reports : Reports faults good outcome) :
    (∃ a, outcome = .ok a) ↔ faults = [] := by
  cases faults with
  | nil =>
    obtain ⟨a, returned, _⟩ := reports
    exact iff_of_true ⟨a, returned⟩ rfl
  | cons first rest =>
    have failed : outcome = .error first := reports
    simp [failed]

/-- The error is the first of the faults. -/
theorem eq_error_iff (reports : Reports faults good outcome) {e : ε} :
    outcome = .error e ↔ faults.head? = some e := by
  cases faults with
  | nil =>
    obtain ⟨a, returned, _⟩ := reports
    simp [returned]
  | cons first rest =>
    have failed : outcome = .error first := reports
    simp [failed]

/-- What is good may be said in a weaker way. -/
theorem mono (reports : Reports faults good outcome) {weaker : α → Prop}
    (each : ∀ a, good a → weaker a) : Reports faults weaker outcome := by
  cases faults with
  | nil =>
    obtain ⟨a, returned, isGood⟩ := reports
    exact ⟨a, returned, each a isGood⟩
  | cons first rest => exact reports

/-- The faults of a second step come behind those of the first. -/
theorem bind (reports : Reports faults good outcome) {next : α → Except ε β}
    (each : ∀ a, good a → Reports later better (next a)) :
    Reports (faults ++ later) better (outcome >>= next) := by
  cases faults with
  | nil =>
    obtain ⟨a, returned, isGood⟩ := reports
    rw [returned]
    exact each a isGood
  | cons first rest =>
    have failed : outcome = .error first := reports
    rw [failed]
    rfl

/-- A last step that cannot fail adds no fault. -/
theorem map (reports : Reports faults good outcome) {f : α → β}
    (each : ∀ a, good a → better (f a)) : Reports faults better (do return f (← outcome)) := by
  have step : Reports (faults ++ []) better (outcome >>= fun a => .ok (f a)) :=
    reports.bind fun a isGood => ⟨f a, rfl, each a isGood⟩
  rwa [List.append_nil] at step

/-- Entries that are handled one by one have their faults one behind the other. -/
theorem mapM {γ : Type} {xs : List γ} {act : γ → Except ε α} {faultsOf : γ → List ε}
    {Good : γ → α → Prop} (each : ∀ x ∈ xs, Reports (faultsOf x) (Good x) (act x)) :
    Reports (xs.flatMap faultsOf) (List.Forall₂ Good xs) (xs.mapM act) := by
  induction xs with
  | nil => exact ⟨[], rfl, .nil⟩
  | cons x rest ih =>
    obtain ⟨own, others⟩ := List.forall_mem_cons.mp each
    rw [List.flatMap_cons, List.mapM_cons]
    refine own.bind fun a isGood => ?_
    exact (ih others).map fun as areGood => .cons isGood areGood

end Reports

end Devirt
