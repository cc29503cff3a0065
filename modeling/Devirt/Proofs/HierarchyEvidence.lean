import Mathlib.Data.List.Flatten
import Devirt.Proofs.BuilderRuns
import Devirt.Proofs.MarkerEvidence
import Devirt.Proofs.ReportKeys

/-!
# What a hierarchy adds

A detector with a hierarchy finds all that it finds without one, unchanged. At an offset where it
finds nothing without one, it has a finding exactly if some code is linked to the call, no remark
about the code of the call itself shows a dispatch or a marker, and the hierarchy has a reason why
the call reaches only one implementation. Inlined code counts here, but only for where the reason
is shown, and only if the call has no code of its own.

The same holds of whole runs: a run that asks the hierarchy reports all that a run without it
reports, in the same order, and fails only where that fails. What the hierarchy's reasons are
worth is not a matter of this module.
-/

namespace Devirt

open Detection (Marker Evidence Finding Detector)

/-- The instruction was emitted for the offset, for the call itself or for an inlined callee. -/
def Instruction.IsLinked (instruction : Instruction) (member : Member) (offset : UInt32) : Prop :=
  ∃ inlined, ⟨offset, inlined⟩ ∈ Scope.links member instruction

namespace Method

variable {method : Method} {offset : UInt32}

/-- An instruction is linked as one of its links says. -/
theorem isSome_linkedAt? {instruction : Instruction} :
    (Scope.linkedAt? method.member offset instruction).isSome = true ↔
      instruction.IsLinked method.member offset := by
  simp only [Option.isSome_iff_exists, Scope.linkedAt?_eq_some_iff, Instruction.IsLinked]

/-- Some instruction is linked to the offset unless none of the code is. -/
theorem exists_isLinked_iff :
    (∃ instruction ∈ method.instructions, instruction.IsLinked method.member offset) ↔
      method.linkedTo offset ≠ [] := by
  simp only [linkedTo, ne_eq, List.filter_eq_nil_iff, isSome_linkedAt?, not_forall, not_not,
    exists_prop]

/-- Code of the call itself is code that is linked to the call. -/
theorem linkedTo_ne_nil_of_direct (direct : method.directlyLinkedTo offset ≠ []) :
    method.linkedTo offset ≠ [] := by
  obtain ⟨instruction, mem⟩ := List.exists_mem_of_ne_nil _ direct
  obtain ⟨stands, isDirect⟩ := mem_directlyLinkedTo.mp mem
  exact exists_isLinked_iff.mp ⟨instruction, stands, false, isDirect⟩

/-- The instruction at which a reason is shown: the first one of the call itself, or else the first
one that is linked to the call. -/
def ShowsReason (method : Method) (offset : UInt32) (instruction : Instruction) : Prop :=
  IsFirst (·.IsDirect method.member offset) method.instructions instruction ∨
    (∀ other ∈ method.instructions, ¬ other.IsDirect method.member offset) ∧
      IsFirst (·.IsLinked method.member offset) method.instructions instruction

/-- The head of the call's own code, or else of all linked code, is where a reason is shown. -/
theorem head?_or_head?_eq_some_iff {instruction : Instruction} :
    (method.directlyLinkedTo offset).head?.or (method.linkedTo offset).head? = some instruction ↔
      method.ShowsReason offset instruction := by
  rw [Option.or_eq_some_iff, ShowsReason, directlyLinkedTo, linkedTo, List.head?_filter,
    List.head?_filter, find?_eq_some_iff_isFirst fun _ => linkedAt?_beq_iff,
    find?_eq_some_iff_isFirst fun _ => isSome_linkedAt?, List.find?_eq_none]
  simp only [linkedAt?_beq_iff]

/-- A reason can be shown when some code is linked to the call. -/
theorem exists_showsReason_iff :
    (∃ instruction, method.ShowsReason offset instruction) ↔
      ∃ instruction ∈ method.instructions, instruction.IsLinked method.member offset := by
  simp only [← head?_or_head?_eq_some_iff, exists_isLinked_iff, ← Option.isSome_iff_exists,
    Option.isSome_or, Bool.or_eq_true, List.isSome_head?, ne_eq]
  exact ⟨fun either => either.elim linkedTo_ne_nil_of_direct id, .inr⟩

/-- No remark about the code of the call itself shows a dispatch or a marker. -/
def IsSilent (method : Method) (markers : List Marker) (offset : UInt32) : Prop :=
  ∀ instruction ∈ method.instructions, instruction.IsDirect method.member offset →
    ¬ instruction.ShowsDispatch ∧ ¬ instruction.ShowsMarker markers

end Method

namespace Detection

namespace Detector

/-- The detector that looks for the markers only. -/
abbrev marking (markers : List Marker) : Detector := ⟨markers, none⟩

/-- The detector that asks the hierarchy where there is no marker. -/
abbrev confirming (markers : List Marker) (hierarchy : TypeHierarchy) : Detector :=
  ⟨markers, some hierarchy⟩

variable {markers : List Marker} {hierarchy : TypeHierarchy} {method : Method} {site : CallSite}

/-- The hierarchy's evidence at a call site, unless a dispatch is shown there. -/
def reasonAt? (detector : Detector) (method : Method) (site : CallSite) : Option Evidence :=
  if hasDispatch (method.directlyLinkedTo site.offset) then none
  else detector.hierarchyEvidence? site.target (method.directlyLinkedTo site.offset)
    (method.linkedTo site.offset)

/-- The hierarchy's evidence counts only where there is no evidence without it. -/
theorem evidenceAt?_confirming :
    (confirming markers hierarchy).evidenceAt? method site =
      ((marking markers).evidenceAt? method site).or
        ((confirming markers hierarchy).reasonAt? method site) := by
  rw [evidenceAt?_of_no_hierarchy, evidenceAt?, reasonAt?]
  by_cases dispatch : hasDispatch (method.directlyLinkedTo site.offset) = true
  · simp [dispatch]
  · simp only [dispatch, Bool.false_eq_true, if_false]
    rfl

/-- The hierarchy's evidence is its reason, shown at the first instruction of the call. -/
theorem hierarchyEvidence?_eq_some_iff {offset : UInt32} {target : Member} {evidence : Evidence} :
    (confirming markers hierarchy).hierarchyEvidence? target (method.directlyLinkedTo offset)
        (method.linkedTo offset) = some evidence ↔
      ∃ reason instruction, hierarchy.monomorphism? target = some reason ∧
        method.ShowsReason offset instruction ∧
        evidence = ⟨reason.text, instruction.address⟩ := by
  simp only [hierarchyEvidence?, Option.bind_eq_bind, Option.bind_some, Option.bind_eq_some_iff,
    Option.some.injEq, Method.head?_or_head?_eq_some_iff]
  apply Iff.intro
  · intro parts
    obtain ⟨reason, given, instruction, shows, made⟩ := parts
    exact ⟨reason, instruction, given, shows, made.symm⟩
  · intro parts
    obtain ⟨reason, instruction, given, shows, made⟩ := parts
    exact ⟨reason, given, instruction, shows, made.symm⟩

/-- The code of the call itself is silent when it gives no dispatch and no marker. -/
theorem isSilent_iff {offset : UInt32} :
    method.IsSilent markers offset ↔
      ¬ hasDispatch (method.directlyLinkedTo offset) = true ∧
      (marking markers).markerEvidence? (method.directlyLinkedTo offset) = none := by
  rw [hasDispatch_iff, ← Option.not_isSome_iff_eq_none, isSome_markerEvidence?]
  simp only [Method.IsSilent, Method.mem_directlyLinkedTo, not_exists, not_and, and_imp, imp_and,
    forall_and]

/-- The hierarchy adds evidence where the call's own code is silent and there is a reason. -/
theorem adds_evidence_iff {evidence : Evidence} :
    (marking markers).evidenceAt? method site = none ∧
        (confirming markers hierarchy).reasonAt? method site = some evidence ↔
      method.IsSilent markers site.offset ∧
      ∃ reason instruction, hierarchy.monomorphism? site.target = some reason ∧
        method.ShowsReason site.offset instruction ∧
        evidence = ⟨reason.text, instruction.address⟩ := by
  rw [evidenceAt?_of_no_hierarchy, reasonAt?, isSilent_iff,
    ← @hierarchyEvidence?_eq_some_iff markers]
  by_cases dispatch : hasDispatch (method.directlyLinkedTo site.offset) = true
  · simp [dispatch]
  · simp only [dispatch, Bool.false_eq_true, if_false, not_false_eq_true, true_and]

/-- What is found without a hierarchy is what is found with it at the same offsets. -/
theorem filter_find_confirming (markers : List Marker) (hierarchy : TypeHierarchy)
    (method : Method) :
    ((confirming markers hierarchy).find method).filter (fun finding =>
        ∃ other ∈ (marking markers).find method, other.offset = finding.offset) =
      (marking markers).find method := by
  have reported (site : CallSite) (mem : site ∈ candidates method) :
      (∃ other ∈ (marking markers).find method, other.offset = site.offset) ↔
        ((marking markers).evidenceAt? method site).isSome := by
    rw [exists_finding_iff]
    simp [mem_candidates.mp mem]
  conv_rhs => rw [find_eq_filterMap]
  rw [find_eq_filterMap (confirming markers hierarchy), List.filter_filterMap]
  refine List.filterMap_congr fun site mem => ?_
  rw [evidenceAt?_confirming]
  cases found : (marking markers).evidenceAt? method site with
  | some evidence =>
    have listed := (reported site mem).mpr (by simp [found])
    simpa [findingOf] using listed
  | none =>
    have unlisted := mt (reported site mem).mp (by simp [found])
    cases (confirming markers hierarchy).reasonAt? method site with
    | none => rfl
    | some evidence => simpa [findingOf] using unlisted

/-- Nothing that is found without a hierarchy is lost with it. -/
theorem find_marking_sublist (markers : List Marker) (hierarchy : TypeHierarchy)
    (method : Method) :
    ((marking markers).find method).Sublist ((confirming markers hierarchy).find method) := by
  rw [← filter_find_confirming markers hierarchy method]
  exact List.filter_sublist

/-- The hierarchy adds an offset where some code is linked to the call, the call's own code is
silent, and there is a reason. -/
theorem adds_offset_iff {offset : UInt32} :
    (∃ finding ∈ (confirming markers hierarchy).find method, finding.offset = offset) ∧
        ¬ (∃ finding ∈ (marking markers).find method, finding.offset = offset) ↔
      ∃ site, method.siteAt? offset = some site ∧
        (∃ instruction ∈ method.instructions, instruction.IsLinked method.member offset) ∧
        method.IsSilent markers offset ∧ (hierarchy.monomorphism? site.target).isSome := by
  rw [exists_finding_iff, exists_finding_iff]
  cases stands : method.siteAt? offset with
  | none => simp
  | some site =>
    have placed := (Method.siteAt?_eq_some stands).2
    subst placed
    have added : ((confirming markers hierarchy).evidenceAt? method site).isSome ∧
        ¬ ((marking markers).evidenceAt? method site).isSome ↔
          ∃ evidence, (marking markers).evidenceAt? method site = none ∧
            (confirming markers hierarchy).reasonAt? method site = some evidence := by
      rw [evidenceAt?_confirming, exists_and_left, ← Option.isSome_iff_exists]
      cases (marking markers).evidenceAt? method site <;> simp
    simp only [Option.some.injEq, exists_eq_left']
    rw [added]
    simp only [adds_evidence_iff, ← Method.exists_showsReason_iff, Option.isSome_iff_exists]
    apply Iff.intro
    · intro parts
      obtain ⟨_, silent, reason, instruction, given, shows, _⟩ := parts
      exact ⟨⟨instruction, shows⟩, silent, reason, given⟩
    · intro parts
      obtain ⟨⟨instruction, shows⟩, silent, reason, given⟩ := parts
      exact ⟨_, silent, reason, instruction, given, shows, rfl⟩

/-- A finding at an added offset tells the hierarchy's reason, at the first instruction of the
call. -/
theorem eq_of_added {finding : Finding}
    (found : finding ∈ (confirming markers hierarchy).find method)
    (added : ¬ ∃ other ∈ (marking markers).find method, other.offset = finding.offset) :
    ∃ site reason instruction, method.siteAt? finding.offset = some site ∧
      hierarchy.monomorphism? site.target = some reason ∧
      method.ShowsReason finding.offset instruction ∧
      finding = ⟨method.member, finding.offset, site.kind, site.target, reason.text,
        instruction.address⟩ := by
  obtain ⟨site, evidence, stands, shown, rfl⟩ := mem_find.mp found
  have silent : (marking markers).evidenceAt? method site = none := by
    rw [exists_finding_iff] at added
    simpa [findingOf, stands] using added
  rw [evidenceAt?_confirming, silent, Option.none_or] at shown
  obtain ⟨_, reason, instruction, given, shows, rfl⟩ := adds_evidence_iff.mp ⟨silent, shown⟩
  exact ⟨site, reason, instruction, stands, given, shows, rfl⟩

end Detector

end Detection

namespace Program

/-- A run that asks the hierarchy fails where a run without it fails, and reports all that this
reports, in the same order. -/
theorem analyze_with_hierarchy (program : Program) (texts : List String) :
    (∃ e, program.analyze ⟨texts, false⟩ = .error e ∧
        program.analyze ⟨texts, true⟩ = .error e) ∨
      ∃ without confirmed, program.analyze ⟨texts, false⟩ = .ok without ∧
        program.analyze ⟨texts, true⟩ = .ok confirmed ∧
        without.report.findings.Sublist confirmed.report.findings := by
  cases checked : program.check with
  | error e =>
    exact .inl ⟨e, analyze_of_check_eq_error checked _, analyze_of_check_eq_error checked _⟩
  | ok =>
    refine .inr ⟨_, _, analyze_of_check_eq_ok checked _, analyze_of_check_eq_ok checked _, ?_⟩
    apply sublist_mergeSort_mergeSort Finding.mayPrecede_trans Finding.mayPrecede_total
    refine List.Sublist.flatMap_right _ fun method _ => ?_
    exact Detector.find_marking_sublist (Detector.ofMarkers texts).markers program.typeHierarchy
      method

end Program

namespace Detection.Detector

/-- Asking a hierarchy is a conservative extension, for all markers, hierarchies and methods. What
is found without it is found with it, unchanged, and nothing else is found at those offsets. An
offset is added exactly when the first virtual or interface call there has linked code, its own
code shows neither a dispatch nor a marker, and the hierarchy has a reason for its target. Then the
reason is the evidence, at the first instruction of the call itself, or else at the first one
linked to the call. In whole runs every finding of the run without the hierarchy is kept. -/
theorem hierarchy_adds_conservatively (markers : List Marker) (hierarchy : TypeHierarchy)
    (method : Method) (program : Program) (texts : List String) :
    ((confirming markers hierarchy).find method).filter (fun finding =>
        ∃ other ∈ (marking markers).find method, other.offset = finding.offset) =
      (marking markers).find method ∧
    (∀ offset,
      (∃ finding ∈ (confirming markers hierarchy).find method, finding.offset = offset) ∧
          ¬ (∃ finding ∈ (marking markers).find method, finding.offset = offset) ↔
        ∃ site, IsFirst (fun site => (site.kind = .virtual ∨ site.kind = .interface) ∧
            site.offset = offset) method.callSites site ∧
          (∃ instruction ∈ method.instructions, instruction.IsLinked method.member offset) ∧
          method.IsSilent markers offset ∧ (hierarchy.monomorphism? site.target).isSome) ∧
    (∀ finding ∈ (confirming markers hierarchy).find method,
      (¬ ∃ other ∈ (marking markers).find method, other.offset = finding.offset) →
        ∃ site reason instruction,
          IsFirst (fun site => (site.kind = .virtual ∨ site.kind = .interface) ∧
            site.offset = finding.offset) method.callSites site ∧
          hierarchy.monomorphism? site.target = some reason ∧
          method.ShowsReason finding.offset instruction ∧
          finding = ⟨method.member, finding.offset, site.kind, site.target, reason.text,
            instruction.address⟩) ∧
    ((∃ e, program.analyze ⟨texts, false⟩ = .error e ∧
        program.analyze ⟨texts, true⟩ = .error e) ∨
      ∃ without confirmed, program.analyze ⟨texts, false⟩ = .ok without ∧
        program.analyze ⟨texts, true⟩ = .ok confirmed ∧
        without.report.findings.Sublist confirmed.report.findings) := by
  refine ⟨filter_find_confirming markers hierarchy method, fun offset => ?_,
    fun finding found added => ?_, program.analyze_with_hierarchy texts⟩
  · rw [adds_offset_iff]
    simp only [Method.siteAt?_eq_some_iff]
  · obtain ⟨site, reason, instruction, stands, given, shows, made⟩ := eq_of_added found added
    exact ⟨site, reason, instruction, Method.siteAt?_eq_some_iff.mp stands, given, shows, made⟩

-- Only inlined code is left of the call, so there is no remark that could be a marker.
example :
    let method : Method := {
      member := ⟨"Canvas", "paint", "()V"⟩
      callSites := [⟨5, .virtual, ⟨"Shape", "area", "()D"⟩⟩]
      instructions := [{
        address := 16, mnemonic := "call"
        comments := [Comment.ofText "; - Shape::area@1 (line 7)",
          Comment.ofText "; - Canvas::paint@5 (line 12)"] }] }
    (marking []).find method = [] ∧
      (confirming [] (.ofList [{ name := "Shape", isFinal := true }])).find method =
        [⟨method.member, 5, .virtual, ⟨"Shape", "area", "()D"⟩,
          "receiver class Shape is final", 16⟩] := by
  decide +kernel

end Detection.Detector

end Devirt
