import Devirt.Detection.Finding
import Devirt.Text.Basic

/-!
# Reports

The findings of a run, in ascending order of the caller's fully qualified name and then of the
bytecode offset. Findings of one caller and offset keep the order they were made in.
-/

namespace Devirt

open Detection (Finding)

/-- Whether a finding may stand in front of another in a report. -/
def Detection.Finding.mayPrecede (a b : Finding) : Bool :=
  decide (a.caller.fullName < b.caller.fullName) ||
    (a.caller.fullName == b.caller.fullName && decide (a.offset ≤ b.offset))

/-- Findings in report order. -/
structure Report where
  findings : List Finding := []
deriving DecidableEq, Repr

namespace Report

/-- The report of findings in any order. -/
def ofFindings (findings : List Finding) : Report := ⟨findings.mergeSort Finding.mayPrecede⟩

/-- The number of findings. -/
def size (report : Report) : Nat := report.findings.length

/-- The report, a line for each finding. -/
def text (report : Report) : String :=
  String.join (report.findings.map fun finding => finding.text ++ "\n")

/-- The findings whose caller's fully qualified name contains the text. -/
def forMember (report : Report) (text : String) : List Finding :=
  report.findings.filter fun finding => Text.contains finding.caller.fullName text

end Report

end Devirt
