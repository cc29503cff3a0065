import Mathlib.Data.List.Perm.Subperm
import Devirt.Proofs.Emissions

/-!
# Findings of a method

A method has a finding at an offset exactly when its first dispatched call site there has
evidence, and the evidence is read off the instructions that are linked to the offset. Nothing
else of the method counts. The findings ascend strictly by offset, so what is found at each
offset determines them.

This holds with and without a hierarchy.
-/

namespace Devirt

open Scope (linkedAt?)
open Scope.OffsetIndex (emissionsAt)

namespace Method

/-- The first dispatched call site at an offset. -/
def siteAt? (method : Method) (offset : UInt32) : Option CallSite :=
  method.dispatchedSites.find? (·.offset == offset)

/-- The instructions that are linked to an offset. -/
def linkedTo (method : Method) (offset : UInt32) : List Instruction :=
  method.instructions.filter fun instruction =>
    (linkedAt? method.member offset instruction).isSome

/-- The instructions that are linked to an offset as the method's own code. -/
def directlyLinkedTo (method : Method) (offset : UInt32) : List Instruction :=
  method.instructions.filter fun instruction =>
    linkedAt? method.member offset instruction == some false

/-- The call site that counts at an offset is dispatched and stands there. -/
theorem siteAt?_eq_some {method : Method} {offset : UInt32} {site : CallSite}
    (found : method.siteAt? offset = some site) :
    site ∈ method.dispatchedSites ∧ site.offset = offset := by
  have stands := List.find?_some found
  exact ⟨List.mem_of_find?_eq_some found, by simpa using stands⟩

end Method

namespace Detection

/-- The candidates are the dispatched call sites, inserted one after the other. -/
theorem candidates_eq_insertAll (method : Method) :
    candidates method =
      insertAll CallSite.offset (fun older _ => older) method.dispatchedSites [] := rfl

/-- The candidates ascend strictly by offset. -/
theorem pairwise_candidates (method : Method) :
    (candidates method).Pairwise (·.offset < ·.offset) :=
  pairwise_insertAll CallSite.offset (fun _ _ => rfl) method.dispatchedSites List.Pairwise.nil

/-- The candidates are the call sites that count at their offsets. -/
theorem mem_candidates {method : Method} {site : CallSite} :
    site ∈ candidates method ↔ method.siteAt? site.offset = some site := by
  have under := find?_eq_some_iff_mem (pairwise_candidates method) (k := site.offset) (x := site)
  rw [candidates_eq_insertAll, find?_insertAll_first] at under
  simpa [Method.siteAt?, candidates_eq_insertAll] using under.symm

/-- The instructions of the call itself are those linked directly. -/
theorem emitted_direct (method : Method) (offset : UInt32) :
    emitted method ((emissionsAt method.member method.instructions offset).filter
      (!·.inlined)) = method.directlyLinkedTo offset := by
  rw [emitted_filter_emissionsAt, Method.directlyLinkedTo]
  congr 1
  funext instruction
  cases linkedAt? method.member offset instruction with
  | none => rfl
  | some inlined => cases inlined <;> rfl

/-- All instructions of a call are those linked to it. -/
theorem emitted_all (method : Method) (offset : UInt32) :
    emitted method (emissionsAt method.member method.instructions offset) =
      method.linkedTo offset := by
  have all := emitted_filter_emissionsAt method offset fun _ => true
  rw [List.filter_true] at all
  rw [all, Method.linkedTo]
  rfl

namespace Detector

/-- The evidence at a call site, read off the instructions that are linked to its offset. -/
def evidenceAt? (detector : Detector) (method : Method) (site : CallSite) : Option Evidence :=
  let direct := method.directlyLinkedTo site.offset
  if hasDispatch direct then none
  else (detector.markerEvidence? direct).or
    (detector.hierarchyEvidence? site.target direct (method.linkedTo site.offset))

/-- The finding that evidence makes of a call site. -/
def findingOf (method : Method) (site : CallSite) (evidence : Evidence) : Finding :=
  ⟨method.member, site.offset, site.kind, site.target, evidence.text, evidence.address⟩

/-- Without instructions there is no evidence. -/
theorem evidence?_nil (detector : Detector) (method : Method) (target : Member) :
    detector.evidence? method target [] = none := by
  simp [evidence?, emitted, hasDispatch, markerEvidence?, hierarchyEvidence?]

/-- A call site is found when there is evidence at it. -/
theorem finding?_eq (detector : Detector) (method : Method) (site : CallSite) :
    detector.finding? method
        (Scope.OffsetIndex.ofInstructions method.member method.instructions) site =
      (detector.evidenceAt? method site).map (findingOf method site) := by
  have evidence : detector.evidence? method site.target
      (emissionsAt method.member method.instructions site.offset) =
        detector.evidenceAt? method site := by
    rw [evidence?, emitted_direct, emitted_all, evidenceAt?]
  rw [finding?, Scope.OffsetIndex.find?_ofInstructions, ← evidence]
  by_cases empty : emissionsAt method.member method.instructions site.offset = []
  · simp [empty, evidence?_nil]
  · rw [if_neg empty, Option.map_eq_bind]
    rfl

/-- The findings are what evidence makes of the candidates, in their order. -/
theorem find_eq_filterMap (detector : Detector) (method : Method) :
    detector.find method = (candidates method).filterMap fun site =>
      (detector.evidenceAt? method site).map (findingOf method site) := by
  simp only [find, finding?_eq]

/-- A method has no more findings than dispatched call sites. -/
theorem length_find_le (detector : Detector) (method : Method) :
    (detector.find method).length ≤ method.dispatchedSites.length := by
  have distinct : (candidates method).Nodup :=
    (pairwise_candidates method).imp fun lt same => Std.ne_of_lt lt (congrArg CallSite.offset same)
  have held : candidates method ⊆ method.dispatchedSites :=
    fun _ mem => (Method.siteAt?_eq_some (mem_candidates.mp mem)).1
  rw [find_eq_filterMap]
  exact Nat.le_trans (List.length_filterMap_le _ _) (distinct.subperm held).length_le

/-- The findings ascend strictly by offset. -/
theorem pairwise_find (detector : Detector) (method : Method) :
    (detector.find method).Pairwise (·.offset < ·.offset) := by
  rw [find_eq_filterMap, List.pairwise_filterMap]
  refine (pairwise_candidates method).imp ?_
  intro a b lt x foundA y foundB
  rw [Option.map_eq_some_iff] at foundA foundB
  obtain ⟨_, _, rfl⟩ := foundA
  obtain ⟨_, _, rfl⟩ := foundB
  exact lt

/-- The findings are what evidence makes of the call sites that count at their offsets. -/
theorem mem_find {detector : Detector} {method : Method} {finding : Finding} :
    finding ∈ detector.find method ↔
      ∃ site evidence, method.siteAt? site.offset = some site ∧
        detector.evidenceAt? method site = some evidence ∧
        findingOf method site evidence = finding := by
  simp only [find_eq_filterMap, List.mem_filterMap, mem_candidates, Option.map_eq_some_iff]
  apply Iff.intro
  · intro parts
    obtain ⟨site, first, evidence, shown, made⟩ := parts
    exact ⟨site, evidence, first, shown, made⟩
  · intro parts
    obtain ⟨site, evidence, first, shown, made⟩ := parts
    exact ⟨site, first, evidence, shown, made⟩

/-- At each offset the only finding is what evidence makes of the call site that counts there. -/
theorem filter_find (detector : Detector) (method : Method) (offset : UInt32) :
    (detector.find method).filter (·.offset == offset) =
      ((method.siteAt? offset).bind fun site =>
        (detector.evidenceAt? method site).map (findingOf method site)).toList := by
  rw [filter_eq_toList_find? (pairwise_find detector method)]
  congr 1
  refine Option.ext fun finding => ?_
  rw [find?_eq_some_iff_mem (pairwise_find detector method), mem_find]
  simp only [Option.bind_eq_some_iff, Option.map_eq_some_iff]
  apply Iff.intro
  · intro parts
    obtain ⟨⟨site, evidence, first, shown, rfl⟩, rfl⟩ := parts
    exact ⟨site, first, evidence, shown, rfl⟩
  · intro parts
    obtain ⟨site, first, evidence, shown, rfl⟩ := parts
    have stands := (Method.siteAt?_eq_some first).2
    subst stands
    exact ⟨⟨site, evidence, first, shown, rfl⟩, rfl⟩

/-- A finding names the method it was made for. -/
theorem caller_of_mem_find {detector : Detector} {method : Method} {finding : Finding}
    (mem : finding ∈ detector.find method) : finding.caller = method.member := by
  obtain ⟨site, evidence, _, _, rfl⟩ := mem_find.mp mem
  rfl

/-- An offset is reported exactly when the call site that counts there has evidence. -/
theorem exists_finding_iff {detector : Detector} {method : Method} {offset : UInt32} :
    (∃ finding ∈ detector.find method, finding.offset = offset) ↔
      ∃ site, method.siteAt? offset = some site ∧
        (detector.evidenceAt? method site).isSome := by
  apply Iff.intro
  · intro parts
    obtain ⟨finding, mem, same⟩ := parts
    obtain ⟨site, evidence, first, shown, rfl⟩ := mem_find.mp mem
    subst same
    exact ⟨site, first, Option.isSome_iff_exists.mpr ⟨evidence, shown⟩⟩
  · intro parts
    obtain ⟨site, first, shown⟩ := parts
    obtain ⟨evidence, shown⟩ := Option.isSome_iff_exists.mp shown
    have stands := (Method.siteAt?_eq_some first).2
    subst stands
    exact ⟨findingOf method site evidence, mem_find.mpr ⟨site, evidence, first, shown, rfl⟩, rfl⟩

end Detector

end Detection

end Devirt
