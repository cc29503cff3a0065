import Devirt.Analysis
import Devirt.Snapshot.Encode

/-!
# Report documents

The outcome of a run as two documents: indented JSON for programs, and text for readers. The
JSON of single findings and instructions is compact and leaves nothing out.
-/

namespace Devirt

/-- An instruction as JSON. -/
def Instruction.toJson (instruction : Instruction) : Json :=
  .record [("annotation", .optional instruction.label),
    ("address", .natural instruction.address.toNat),
    ("modifier", .optional instruction.modifier), ("mnemonic", .text instruction.mnemonic),
    ("operands", .texts instruction.operands),
    ("comment_lines", .texts (instruction.comments.map (·.text)))]

/-- A finding as JSON. -/
def Detection.Finding.toJson (finding : Finding) : Json :=
  .record [("calling_member", finding.caller.toJson),
    ("bytecode_offset", .natural finding.offset.toNat),
    ("original_call_kind", finding.kind.toJson), ("target", finding.target.toJson),
    ("resolution_evidence", .text finding.evidence),
    ("evidence_address", .natural finding.address.toNat)]

/-- A report as JSON. -/
def Report.toJson (report : Report) : Json :=
  .array (report.findings.map Detection.Finding.toJson)

/-- The statistics as JSON. -/
def Statistics.toJson (statistics : Statistics) : Json :=
  .record [("methods_visited", .natural statistics.methodsVisited),
    ("call_sites_examined", .natural statistics.callSitesExamined),
    ("dispatched_call_sites", .natural statistics.dispatchedCallSites),
    ("optimized_calls", .natural statistics.optimizedCalls)]

namespace Analysis

/-- The outcome as JSON. -/
def toJson (analysis : Analysis) : Json :=
  .record [("report", analysis.report.toJson), ("stats", analysis.statistics.toJson),
    ("hierarchy_used", .bool analysis.hierarchyUsed)]

/-- Whether the hierarchy was asked, in a word. -/
def hierarchyWord (analysis : Analysis) : String := if analysis.hierarchyUsed then "on" else "off"

/-- The JSON document. -/
def jsonDocument (analysis : Analysis) : String := analysis.toJson.renderIndented

/-- The text document: the findings, an empty line if there are any, and the statistics. -/
def textDocument (analysis : Analysis) : String :=
  let findings := analysis.report.text
  let statistics := analysis.statistics
  findings ++ (if findings = "" then "" else "\n") ++
    "methods visited: " ++ toString statistics.methodsVisited ++ "\n" ++
    "call sites examined: " ++ toString statistics.callSitesExamined ++ "\n" ++
    "virtual/interface call sites: " ++ toString statistics.dispatchedCallSites ++ "\n" ++
    "optimized calls: " ++ toString statistics.optimizedCalls ++ "\n" ++
    "hierarchy confirmation: " ++ analysis.hierarchyWord ++ "\n"

/-- The name of the JSON document's file. -/
def jsonFileName : String := "vcall_report.json"

/-- The name of the text document's file. -/
def textFileName : String := "vcall_report.txt"

end Analysis

end Devirt
