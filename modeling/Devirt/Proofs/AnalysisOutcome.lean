import Devirt.Proofs.AddedMarkers
import Devirt.Proofs.NameOrder
import Devirt.Proofs.ReportKeys

/-!
# What a run tells of a program

A run fails exactly where the check of the structure fails, with the defect that the check found.
Otherwise it reports all that its detector finds in the compiled methods, in ascending order, and
counts the methods, their call sites, the dispatched ones among these, and the findings. The
detector is the one that the configuration asks for.

The order is by the bytes of the callers' names, and then by offsets. It leaves open how findings
of one key stand; they stand in the order of the walk, so nothing about the report is left open.
-/

namespace Devirt

open Detection (Finding Detector Marker builtinMarkers builtinMarkers_eq_map)

namespace Detection.Finding

/-- A finding stands no later than another: the bytes of its caller's fully qualified name are
smaller, or the names are the same and its offset is no greater. -/
def InOrder (a b : Finding) : Prop :=
  Text.utf8 a.caller.fullName < Text.utf8 b.caller.fullName ∨
    a.caller.fullName = b.caller.fullName ∧ a.offset ≤ b.offset

/-- Reports are in the order of the bytes of names. -/
theorem inOrder_iff {a b : Finding} : a.InOrder b ↔ a.mayPrecede b = true := by
  simp only [InOrder, mayPrecede, Text.utf8_lt_iff, Bool.or_eq_true, Bool.and_eq_true,
    decide_eq_true_eq, beq_iff_eq]

/-- Of two findings of one key either may stand in front of the other. -/
theorem mayPrecede_of_key_eq {a b : Finding} (same : a.key = b.key) : a.mayPrecede b = true := by
  obtain ⟨name, offset⟩ := Prod.mk.injEq .. ▸ same
  simp [mayPrecede, name, offset]

end Detection.Finding

/-- Findings of one key stand in a report in the order they were made in. -/
theorem Report.filter_key_ofFindings (findings : List Finding) (key : String × UInt32) :
    (ofFindings findings).findings.filter (·.key = key) = findings.filter (·.key = key) := by
  apply filter_mergeSort Finding.mayPrecede_trans Finding.mayPrecede_total
  intro a b inA inB
  exact Finding.mayPrecede_of_key_eq ((of_decide_eq_true inA).trans (of_decide_eq_true inB).symm)

/-- The outcome is what a run with the configuration has to tell of the program. -/
structure Analysis.Covers (analysis : Analysis) (program : Program) (config : Config) : Prop where
  /-- The detector looks for what is wanted and asks the hierarchy if that is wanted. -/
  detector : config.AsksFor program (config.detector program)
  /-- The findings are those in the compiled methods. -/
  complete : analysis.report.findings.Perm
    (program.compiledMethods.flatMap (config.detector program).find)
  ascending : analysis.report.findings.Pairwise Finding.InOrder
  /-- Findings of one key stand in the order of the walk. -/
  stable : ∃ order, program.WalkOrder program.roots order ∧ ∀ key,
    analysis.report.findings.filter (·.key = key) =
      (order.flatMap fun occurrence =>
        (config.detector program).find occurrence.method).filter (·.key = key)
  methodsVisited : analysis.statistics.methodsVisited =
    program.methods.countP fun method => method.instructions ≠ []
  callSitesExamined : analysis.statistics.callSitesExamined =
    (program.compiledMethods.map (·.callSites.length)).sum
  dispatchedCallSites : analysis.statistics.dispatchedCallSites =
    (program.compiledMethods.map fun method =>
      method.callSites.countP fun site => site.kind = .virtual ∨ site.kind = .interface).sum
  optimizedCalls : analysis.statistics.optimizedCalls = analysis.report.findings.length
  optimizedCalls_le :
    analysis.statistics.optimizedCalls ≤ analysis.statistics.dispatchedCallSites
  dispatchedCallSites_le :
    analysis.statistics.dispatchedCallSites ≤ analysis.statistics.callSitesExamined
  hierarchyUsed : analysis.hierarchyUsed = config.useHierarchy

namespace Program

variable {program : Program}

/-- The compiled methods are those with an instruction. -/
theorem length_compiledMethods (program : Program) :
    program.compiledMethods.length =
      program.methods.countP fun method => method.instructions ≠ [] := by
  rw [compiledMethods, ← List.countP_eq_length_filter]
  exact List.countP_congr fun _ _ => Method.isCompiled_iff.trans (by simp)

/-- A run over a program that passes the check tells all that there is to tell. -/
theorem covers_of_check {config : Config} {analysis : Analysis}
    (accepted : program.check = .ok ()) (succeeded : program.analyze config = .ok analysis) :
    analysis.Covers program config := by
  have shown := walkedMethods_perm accepted
  obtain ⟨order, walkOrder, noted, _⟩ := exists_walkOrder_eq accepted
  rw [analyze_of_check_eq_ok accepted, Except.ok.injEq] at succeeded
  subst succeeded
  constructor
  case detector => exact config.asksFor_detector program
  case complete => exact (List.mergeSort_perm _ _).trans (shown.flatMap_right _)
  case ascending => exact (Report.pairwise_ofFindings _).imp Finding.inOrder_iff.mpr
  case stable =>
    refine ⟨order, walkOrder, fun key => ?_⟩
    rw [Detector.report, Report.filter_key_ofFindings, ← noted, List.flatMap_map]
  case methodsVisited => exact shown.length_eq.trans program.length_compiledMethods
  case callSitesExamined => exact (shown.map _).sum_nat
  case dispatchedCallSites =>
    simp only [← Method.length_dispatchedSites]
    exact (shown.map _).sum_nat
  case optimizedCalls => rfl
  case optimizedCalls_le =>
    refine Nat.le_trans (Nat.le_of_eq (Report.size_ofFindings _)) ?_
    exact ReportBuilder.length_findings_shown_le _ program.walkedMethods _
  case dispatchedCallSites_le =>
    exact ReportBuilder.dispatchedCallSites_shown_le (config.detector program)
      program.walkedMethods _
  case hierarchyUsed => exact config.hasHierarchy_detector program

/-- A run fails exactly if the check of the structure fails, with the same defect. When it
succeeds, its report and its statistics tell all that there is to tell of the program. -/
theorem analyze_covers (program : Program) (config : Config) :
    (∀ e, program.analyze config = .error e ↔ program.check = .error e) ∧
      ∀ analysis, program.analyze config = .ok analysis → analysis.Covers program config := by
  cases checked : program.check with
  | error defect =>
    rw [analyze_of_check_eq_error checked]
    refine ⟨fun e => ?_, fun _ absurd => nomatch absurd⟩
    rw [Except.error.injEq, Except.error.injEq]
  | ok =>
    obtain ⟨outcome, succeeded⟩ := exists_analyze_eq_ok checked config
    refine ⟨fun e => ?_, fun analysis succeeded => covers_of_check checked succeeded⟩
    simp only [succeeded, reduceCtorEq]

/-- Two methods call a method of a final class. About one of the calls a guard is remarked; nothing
is remarked about the other, which stands behind a static call. -/
def guardedCalls : Program where
  packages := [{
    name := "org"
    classes := [
      { info := { name := "Canvas" }, package := "org",
        methods := [
          { member := ⟨"Canvas", "resize", "()V"⟩
            callSites := [⟨2, .static, ⟨"Canvas", "log", "()V"⟩⟩, ⟨7, .virtual, area⟩]
            instructions := [{ label := some "@7", address := 32, mnemonic := "call" }] },
          { member := ⟨"Canvas", "paint", "()V"⟩
            callSites := [⟨5, .virtual, area⟩]
            instructions := [{
              label := some "@5", address := 16, mnemonic := "call"
              comments := [Comment.ofText "; Guard elided"] }] }] },
      { info := { name := "Shape", isFinal := true }, package := "org" }] }]
  ascending := List.pairwise_singleton _ _
where
  area : Member := ⟨"Shape", "area", "()D"⟩

/-- A text is given twice, in two spellings, and a blank one. -/
def guardConfig : Config := ⟨[" GUARD", "guard", " "], true⟩

/-- One marker is added for the texts, and the hierarchy is asked. -/
theorem detector_guardConfig :
    guardConfig.detector guardedCalls =
      ⟨(builtinMarkers.map fun marker => ⟨marker.text, marker.text⟩) ++ [⟨"GUARD", "guard"⟩],
        some guardedCalls.typeHierarchy⟩ := by
  have given : ((guardConfig.markers.map Text.trimmed).filter (· ≠ "")).map Marker.ofText =
      [⟨"GUARD", "guard"⟩, ⟨"guard", "guard"⟩] := by
    decide +kernel
  rw [Config.detector, Detector.markers_ofMarkers, given, builtinMarkers_eq_map]
  rfl

/-- A run finds both calls. One is told by the marker, as it was given first, and the other by the
hierarchy. -/
theorem outcome_of_guardedCalls :
    ∃ analysis, guardedCalls.analyze guardConfig = .ok analysis ∧
      analysis.Covers guardedCalls guardConfig ∧
      (analysis.report.findings.map (·.evidence)).Perm
        ["receiver class Shape is final", "GUARD"] ∧
      analysis.statistics = ⟨2, 3, 2, 2⟩ ∧ analysis.hierarchyUsed = true := by
  have accepted : guardedCalls.check = .ok () := by decide +kernel
  obtain ⟨analysis, succeeded⟩ := exists_analyze_eq_ok accepted guardConfig
  have covers := (analyze_covers guardedCalls guardConfig).2 analysis succeeded
  have found : (guardedCalls.compiledMethods.flatMap
      (guardConfig.detector guardedCalls).find).map (·.evidence) =
        ["receiver class Shape is final", "GUARD"] := by
    rw [detector_guardConfig]
    decide +kernel
  have evidence := covers.complete.map (·.evidence)
  rw [found] at evidence
  refine ⟨analysis, succeeded, covers, evidence, ?_, covers.hierarchyUsed⟩
  rw [Statistics.mk.injEq]
  refine ⟨covers.methodsVisited.trans (by decide +kernel),
    covers.callSitesExamined.trans (by decide +kernel),
    covers.dispatchedCallSites.trans (by decide +kernel), covers.optimizedCalls.trans ?_⟩
  simpa using evidence.length_eq

end Program

end Devirt
