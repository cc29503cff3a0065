import Devirt.Detection.Detector
import Devirt.Program.Walk
import Devirt.Report.Basic

/-!
# Building reports

A builder collects the findings of the methods it is shown and counts what it has seen. Building
a report of a program resets the builder and shows it all compiled methods. If the program is
not well formed, the builder keeps what it had. The number of findings in the report is counted
only when a report has been built.
-/

namespace Devirt

open Detection (Detector Finding)

/-- What was seen in a run. -/
structure Statistics where
  methodsVisited : Nat := 0
  callSitesExamined : Nat := 0
  dispatchedCallSites : Nat := 0
  optimizedCalls : Nat := 0
deriving DecidableEq, Repr

/-- The statistics with one method more. -/
def Statistics.addMethod (statistics : Statistics) (method : Method) : Statistics :=
  { statistics with
    methodsVisited := statistics.methodsVisited + 1
    callSitesExamined := statistics.callSitesExamined + method.callSites.length
    dispatchedCallSites := statistics.dispatchedCallSites + method.dispatchedSites.length }

/-- A detector with what it has found, in the order of the methods, and what it has seen. -/
structure ReportBuilder where
  detector : Detector
  findings : List Finding := []
  statistics : Statistics := {}

namespace ReportBuilder

/-- The builder with nothing found and nothing seen. -/
def reset (builder : ReportBuilder) : ReportBuilder := { detector := builder.detector }

/-- The builder after one method more. -/
def visit (builder : ReportBuilder) (method : Method) : ReportBuilder :=
  { builder with
    findings := builder.findings ++ builder.detector.find method
    statistics := builder.statistics.addMethod method }

/-- The builder as a visitor of programs. -/
def visitor : Visitor (StateM ReportBuilder) where
  reset := modify reset
  visit method := modify (·.visit method)

/-- The report of a program, and the builder afterwards. -/
def build (builder : ReportBuilder) (program : Program) :
    Except StructureError Report × ReportBuilder :=
  match (program.walk visitor).run builder with
  | (.error e, builder) => (.error e, builder)
  | (.ok (), builder) =>
    let report := Report.ofFindings builder.findings
    let statistics := { builder.statistics with optimizedCalls := report.size }
    (.ok report, { builder with statistics })

end ReportBuilder

end Devirt
