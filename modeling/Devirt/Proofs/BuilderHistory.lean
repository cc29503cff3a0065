import Mathlib.Data.List.DropRight
import Mathlib.Data.List.Induction
import Mathlib.Data.List.ReduceOption
import Devirt.Proofs.BuilderRuns

/-!
# The history of a builder

A builder can build reports, be shown methods and be reset, in any order and as often as one
likes. Its state is determined by the methods it has been shown since it was last reset. A build
of a program that passes the check counts as a reset and the visits of the walk; a build of any
other program does not count.

Only the number of findings is different. A build counts them, a method shown later does not, so
it tells of the last report and not of the findings kept. An explicit reset forgets the report.
-/

namespace Devirt.ReportBuilder

open Detection (Detector)

/-- What can be done to a builder. -/
inductive Call
  | build (program : Program)
  | visit (method : Method)
  | reset

namespace Call

/-- The builder after the call. -/
def apply (builder : ReportBuilder) : Call → ReportBuilder
  | build program => (builder.build program).2
  | visit method => builder.visit method
  | reset => builder.reset

/-- What the call counts as: visits of methods, and resets in between. -/
def events : Call → List (Option Method)
  | build program =>
    match program.check with
    | .ok () => none :: program.walkedMethods.map some
    | .error _ => []
  | visit method => [some method]
  | reset => [none]

/-- Whether the call is an explicit reset. -/
def isReset : Call → Bool
  | reset => true
  | _ => false

/-- A build of a well-formed program counts as a reset and the visits of the walk. -/
theorem exists_events_build {program : Program} (wellFormed : program.WellFormed) :
    ∃ order, program.WalkOrder program.roots order ∧
      (build program).events = none :: order.map fun occurrence => some occurrence.method := by
  have accepted := Program.check_of_wellFormed wellFormed
  obtain ⟨order, walkOrder, noted, _⟩ := Program.exists_walkOrder_eq accepted
  refine ⟨order, walkOrder, ?_⟩
  rw [events, accepted, ← noted, List.map_map]
  rfl

/-- A build of any other program does not count. -/
theorem events_build_of_not_wellFormed {program : Program} (broken : ¬ program.WellFormed) :
    (build program).events = [] := by
  cases checked : program.check with
  | error e => rw [events, checked]
  | ok => exact absurd (Program.wellFormed_of_check checked) broken

/-- The report that a fresh builder gives for the call. -/
def report? (detector : Detector) : Call → Option Report
  | build program => (({ detector } : ReportBuilder).build program).1.toOption
  | _ => none

end Call

/-- A fresh builder after the calls, one after the other. -/
def run (detector : Detector) (calls : List Call) : ReportBuilder :=
  calls.foldl Call.apply { detector }

/-- The methods visited since the last reset of any kind, in their order. -/
def visitedSinceReset (calls : List Call) : List Method :=
  ((calls.flatMap Call.events).rtakeWhile Option.isSome).reduceOption

/-- The report of the last successful build since the last explicit reset. -/
def lastReport? (detector : Detector) (calls : List Call) : Option Report :=
  ((calls.rtakeWhile fun call => !call.isReset).filterMap (Call.report? detector)).getLast?

section History

variable {detector : Detector} {calls : List Call} {program : Program}

/-- The last call is made of the builder after the others. -/
theorem run_append (call : Call) :
    run detector (calls ++ [call]) = call.apply (run detector calls) := by
  simp [run]

/-- Behind a reset only what comes later has been visited since. -/
theorem visited_behind_reset (events : List (Option Method)) (methods : List Method) :
    ((events ++ none :: methods.map some).rtakeWhile Option.isSome).reduceOption = methods := by
  have later : ∀ event ∈ (methods.map some).reverse, Option.isSome event = true := by simp
  rw [List.rtakeWhile, List.reverse_append, List.reverse_cons, List.append_assoc,
    List.takeWhile_append_of_pos later]
  simp [List.reduceOption]

/-- A visit adds its method. -/
theorem visitedSinceReset_append_visit (method : Method) :
    visitedSinceReset (calls ++ [.visit method]) = visitedSinceReset calls ++ [method] := by
  simp only [visitedSinceReset, List.flatMap_append, List.flatMap_singleton, Call.events]
  rw [List.rtakeWhile_concat_pos _ _ _ Option.isSome_some, List.reduceOption_append]
  rfl

/-- A reset leaves nothing visited. -/
theorem visitedSinceReset_append_reset : visitedSinceReset (calls ++ [.reset]) = [] := by
  simp only [visitedSinceReset, List.flatMap_append, List.flatMap_singleton, Call.events]
  exact visited_behind_reset (calls.flatMap Call.events) []

/-- A successful build leaves the methods of its walk. -/
theorem visitedSinceReset_append_built (accepted : program.check = .ok ()) :
    visitedSinceReset (calls ++ [.build program]) = program.walkedMethods := by
  simp only [visitedSinceReset, List.flatMap_append, List.flatMap_singleton, Call.events, accepted]
  exact visited_behind_reset (calls.flatMap Call.events) program.walkedMethods

/-- A failed build leaves what was visited before. -/
theorem visitedSinceReset_append_refused {e : StructureError} (refused : program.check = .error e) :
    visitedSinceReset (calls ++ [.build program]) = visitedSinceReset calls := by
  simp only [visitedSinceReset, List.flatMap_append, List.flatMap_singleton, Call.events, refused,
    List.append_nil]

/-- A call that does not reset gives the last report if it gives one. -/
theorem lastReport?_append {call : Call} (goesOn : call.isReset = false) :
    lastReport? detector (calls ++ [call]) =
      (call.report? detector).or (lastReport? detector calls) := by
  have goesOn : (!call.isReset) = true := by rw [goesOn]; rfl
  rw [lastReport?, List.rtakeWhile_concat_pos (fun call : Call => !call.isReset) _ _ goesOn,
    List.filterMap_append]
  cases given : call.report? detector with
  | none => simp [given, lastReport?]
  | some report => simp [given]

/-- An explicit reset forgets the report. -/
theorem lastReport?_append_reset : lastReport? detector (calls ++ [.reset]) = none := by
  rw [lastReport?, List.rtakeWhile_concat_neg _ _ _ (by simp [Call.isReset])]
  rfl

/-- The state of a builder is determined by the methods visited since the last reset and the last
report. -/
theorem run_eq_shown (detector : Detector) (calls : List Call) :
    run detector calls =
      shown detector (visitedSinceReset calls)
        ((lastReport? detector calls).elim 0 Report.size) := by
  induction calls using List.reverseRecOn with
  | nil => rfl
  | append_singleton calls call ih =>
    rw [run_append, ih]
    cases call with
    | build program =>
      rw [@lastReport?_append detector calls (.build program) rfl, Call.report?, Call.apply]
      cases checked : program.check with
      | error e =>
        rw [visitedSinceReset_append_refused checked, build_of_check_eq_error checked,
          build_of_check_eq_error checked]
        rfl
      | ok =>
        rw [visitedSinceReset_append_built checked, build_of_check_eq_ok checked,
          build_of_check_eq_ok checked]
        rfl
    | visit method =>
      rw [visitedSinceReset_append_visit, @lastReport?_append detector calls (.visit method) rfl]
      exact visit_shown detector _ _ method
    | reset =>
      rw [visitedSinceReset_append_reset, lastReport?_append_reset]
      rfl

/-- A builder that has not counted more findings than it has does not after a call either. -/
theorem optimizedCalls_apply_le {builder : ReportBuilder}
    (le : builder.statistics.optimizedCalls ≤ builder.findings.length) (call : Call) :
    (call.apply builder).statistics.optimizedCalls ≤ (call.apply builder).findings.length := by
  cases call with
  | build program =>
    rw [Call.apply]
    cases checked : program.check with
    | error e => rwa [build_of_check_eq_error checked]
    | ok =>
      rw [build_of_check_eq_ok checked]
      exact Nat.le_of_eq (Report.size_ofFindings _)
  | visit method =>
    have more : builder.findings.length ≤ (builder.visit method).findings.length := by
      simp [visit]
    exact Nat.le_trans le more
  | reset => exact Nat.le_refl _

/-- A builder has not counted more findings than it has. -/
theorem optimizedCalls_run_le (detector : Detector) (calls : List Call) :
    (run detector calls).statistics.optimizedCalls ≤ (run detector calls).findings.length := by
  induction calls using List.reverseRecOn with
  | nil => exact Nat.le_refl _
  | append_singleton calls call ih =>
    rw [run_append]
    exact optimizedCalls_apply_le ih call

/-- A build fails exactly by telling the defect and leaving the builder as it was. -/
theorem build_eq_error_iff {e : StructureError} (builder : ReportBuilder) :
    (builder.build program).1 = .error e ↔ builder.build program = (.error e, builder) := by
  refine ⟨fun failed => ?_, congrArg Prod.fst⟩
  cases checked : program.check with
  | error defect =>
    rw [build_of_check_eq_error checked] at failed ⊢
    exact Prod.ext failed rfl
  | ok =>
    rw [build_of_check_eq_ok checked] at failed
    cases failed

/-- What a build gives depends on the program and the detector only. -/
theorem fst_build_eq (builder : ReportBuilder) :
    (builder.build program).1 =
      (({ detector := builder.detector } : ReportBuilder).build program).1 := by
  cases checked : program.check with
  | error e => rw [build_of_check_eq_error checked, build_of_check_eq_error checked]
  | ok => rw [build_of_check_eq_ok checked, build_of_check_eq_ok checked]

end History

/-- After any calls, a builder is what the methods visited since the last reset make of it: its
findings are what is found in them, its statistics are sums over them, and it has counted the
findings of the last report. Dispatched are the virtual and the interface calls. Here a build of a
well-formed program counts as a reset and the visits of the walk, and a build of any other program
does not count. So a failed build changes nothing, a build gives what a fresh builder gives, and
never are more findings counted than kept, more findings kept than dispatched call sites counted, or
more of these than call sites. -/
theorem run_determined_since_reset (detector : Detector) (calls : List Call) :
    (run detector calls).detector = detector ∧
      (run detector calls).findings = (visitedSinceReset calls).flatMap detector.find ∧
      (run detector calls).statistics = {
        methodsVisited := (visitedSinceReset calls).length
        callSitesExamined := ((visitedSinceReset calls).map (·.callSites.length)).sum
        dispatchedCallSites := ((visitedSinceReset calls).map fun method =>
          method.callSites.countP fun site => site.kind = .virtual ∨ site.kind = .interface).sum
        optimizedCalls := (lastReport? detector calls).elim 0 Report.size } ∧
      (∀ program, program.WellFormed → ∃ order, program.WalkOrder program.roots order ∧
        (Call.build program).events = none :: order.map fun occurrence => some occurrence.method) ∧
      (∀ program, ¬ program.WellFormed → (Call.build program).events = []) ∧
      (∀ program e, ((run detector calls).build program).1 = .error e ↔
        (run detector calls).build program = (.error e, run detector calls)) ∧
      (∀ program, ((run detector calls).build program).1 =
        (({ detector } : ReportBuilder).build program).1) ∧
      (run detector calls).statistics.optimizedCalls ≤ (run detector calls).findings.length ∧
      (run detector calls).findings.length ≤
        (run detector calls).statistics.dispatchedCallSites ∧
      (run detector calls).statistics.dispatchedCallSites ≤
        (run detector calls).statistics.callSitesExamined := by
  have bounded := optimizedCalls_run_le detector calls
  have failed (program : Program) (e : StructureError) :=
    @build_eq_error_iff program e (run detector calls)
  have given (program : Program) := @fst_build_eq program (run detector calls)
  rw [run_eq_shown] at *
  refine ⟨rfl, rfl, ?_, fun _ => Call.exists_events_build,
    fun _ => Call.events_build_of_not_wellFormed, failed, given, bounded,
    length_findings_shown_le .., dispatchedCallSites_shown_le detector _ _⟩
  simp only [shown, Method.length_dispatchedSites]

end Devirt.ReportBuilder
