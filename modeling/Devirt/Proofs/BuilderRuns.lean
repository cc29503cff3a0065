import Mathlib.Algebra.Order.BigOperators.Group.List
import Mathlib.Algebra.Order.Ring.Nat
import Devirt.Analysis
import Devirt.Proofs.Findings
import Devirt.Proofs.WalkedMethods

/-!
# What a builder collects

Building a report is a walk with the builder as its visitor. So a build of a program that passes
the check resets the builder and then shows it the methods of the walk, and a build of any other
program leaves the builder as it was. Either way the builder is what it has been shown since it
was reset, apart from the number of findings, which only a build counts.

Whatever the methods are, there are no more findings in them than dispatched call sites, and no
more of these than call sites.

A run over a program is the first build of a fresh builder.
-/

namespace Devirt

open Detection (Detector Finding)

/-- A report has as many findings as it is made of. -/
theorem Report.size_ofFindings (findings : List Finding) :
    (ofFindings findings).size = findings.length :=
  (List.mergeSort_perm findings _).length_eq

/-- The report of what the detector finds in the methods of a walk. -/
def Detection.Detector.report (detector : Detector) (program : Program) : Report :=
  .ofFindings (program.walkedMethods.flatMap detector.find)

namespace ReportBuilder

/-- The builder that has been shown the methods since it was reset, and has counted findings. -/
def shown (detector : Detector) (methods : List Method) (optimizedCalls : Nat) : ReportBuilder where
  detector
  findings := methods.flatMap detector.find
  statistics := {
    methodsVisited := methods.length
    callSitesExamined := (methods.map (·.callSites.length)).sum
    dispatchedCallSites := (methods.map (·.dispatchedSites.length)).sum
    optimizedCalls }

/-- A reset builder has been shown nothing. -/
theorem reset_eq_shown (builder : ReportBuilder) :
    builder.reset = shown builder.detector [] 0 := rfl

/-- A builder has no more findings than it has counted dispatched call sites. -/
theorem length_findings_shown_le (detector : Detector) (methods : List Method)
    (optimizedCalls : Nat) :
    (shown detector methods optimizedCalls).findings.length ≤
      (shown detector methods optimizedCalls).statistics.dispatchedCallSites := by
  simp only [shown, List.length_flatMap]
  exact List.sum_le_sum fun method _ => detector.length_find_le method

/-- A builder counts a dispatched call site as a call site. -/
theorem dispatchedCallSites_shown_le (detector : Detector) (methods : List Method)
    (optimizedCalls : Nat) :
    (shown detector methods optimizedCalls).statistics.dispatchedCallSites ≤
      (shown detector methods optimizedCalls).statistics.callSitesExamined :=
  List.sum_le_sum fun method _ => List.length_filter_le _ method.callSites

/-- A visit shows one method more. -/
theorem visit_shown (detector : Detector) (methods : List Method) (optimizedCalls : Nat)
    (method : Method) :
    (shown detector methods optimizedCalls).visit method =
      shown detector (methods ++ [method]) optimizedCalls := by
  simp [shown, visit, Statistics.addMethod]

/-- The builder as a visitor is shown methods one after the other. -/
theorem run_forM_visitor (detector : Detector) (seen methods : List Method)
    (optimizedCalls : Nat) :
    (methods.forM visitor.visit).run (shown detector seen optimizedCalls) =
      ((), shown detector (seen ++ methods) optimizedCalls) := by
  induction methods generalizing seen with
  | nil => rw [List.append_nil]; rfl
  | cons method rest ih =>
    have step := ih (seen ++ [method])
    rw [← visit_shown, List.append_assoc] at step
    exact step

/-- A build of a program that is not well formed reports the defect and changes nothing. -/
theorem build_of_check_eq_error {program : Program} {e : StructureError}
    (refused : program.check = .error e) (builder : ReportBuilder) :
    builder.build program = (.error e, builder) := by
  have stopped : (program.walk visitor).run builder = (.error e, builder) := by
    have refused : program.checkFrom program.roots = .error e := refused
    rw [Program.walk, Program.walkFrom, refused]
    rfl
  rw [build, stopped]

/-- A build of a program that passes the check starts afresh, whatever the builder has seen. -/
theorem build_of_check_eq_ok {program : Program} (accepted : program.check = .ok ())
    (builder : ReportBuilder) :
    builder.build program = (.ok (builder.detector.report program),
      shown builder.detector program.walkedMethods (builder.detector.report program).size) := by
  obtain ⟨_, _, _, follows⟩ := Program.exists_walkOrder_eq accepted
  have walked : (program.walk visitor).run builder =
      (.ok (), shown builder.detector program.walkedMethods 0) := by
    rw [follows]
    change (pure (.ok ()) : StateM ReportBuilder (Except StructureError Unit)).run
      ((program.walkedMethods.forM visitor.visit).run builder.reset).2 = _
    rw [reset_eq_shown, run_forM_visitor]
    rfl
  rw [build, walked]
  rfl

end ReportBuilder

namespace Program

variable {program : Program}

/-- A run over a program that is not well formed fails with the defect. -/
theorem analyze_of_check_eq_error {e : StructureError} (refused : program.check = .error e)
    (config : Config) : program.analyze config = .error e := by
  rw [analyze, ReportBuilder.build_of_check_eq_error refused]

/-- A run over a program that passes the check is the build of a fresh builder. -/
theorem analyze_of_check_eq_ok (accepted : program.check = .ok ()) (config : Config) :
    program.analyze config = .ok {
      report := (config.detector program).report program
      statistics := (ReportBuilder.shown (config.detector program) program.walkedMethods
        ((config.detector program).report program).size).statistics
      hierarchyUsed := (config.detector program).hasHierarchy } := by
  rw [analyze, ReportBuilder.build_of_check_eq_ok accepted]

/-- The report of a run holds what the detector finds in the methods of a walk's order. -/
theorem analyze_eq_ok {config : Config} {analysis : Analysis}
    (succeeded : program.analyze config = .ok analysis) :
    program.check = .ok () ∧ ∃ order, program.WalkOrder program.roots order ∧
      analysis.report = Report.ofFindings
        (order.flatMap fun occurrence => (config.detector program).find occurrence.method) := by
  cases checked : program.check with
  | error e =>
    rw [analyze_of_check_eq_error checked] at succeeded
    cases succeeded
  | ok =>
    rw [analyze_of_check_eq_ok checked] at succeeded
    cases succeeded
    obtain ⟨order, walkOrder, noted, _⟩ := exists_walkOrder_eq checked
    refine ⟨rfl, order, walkOrder, ?_⟩
    rw [Detector.report, ← noted, List.flatMap_map]

/-- A run over a program that passes the check has an outcome. -/
theorem exists_analyze_eq_ok (accepted : program.check = .ok ()) (config : Config) :
    ∃ analysis, program.analyze config = .ok analysis :=
  ⟨_, analyze_of_check_eq_ok accepted config⟩

end Program

end Devirt
