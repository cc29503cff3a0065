import Mathlib.Data.List.Basic
import Devirt.Proofs.Findings

/-!
# Which marker is the evidence

Without a hierarchy a call is reported exactly when a remark about an instruction of the call
itself shows a marker and no such remark shows a dispatch. What is reported comes from three
searches, one inside the other: the first such instruction, its first comment line that shows a
marker, and the first marker that this line shows. Each search stops at the first success, so
nothing behind it counts.

The statement is about comment lines and links as they stand in the method. The index of the
instructions and the list of remarks do not appear in it. How the links of an instruction come
from its label and its scope lines is not a matter of this module.
-/

namespace Devirt

section First

variable {α β : Type} {p : α → Prop} {xs : List α} {x : α}

/-- The entry has the property, and none of the entries before it has. -/
def IsFirst (p : α → Prop) (xs : List α) (x : α) : Prop :=
  p x ∧ ∃ before after, xs = before ++ x :: after ∧ ∀ y ∈ before, ¬ p y

/-- A search by a test finds the first entry that passes it. -/
theorem find?_eq_some_iff_isFirst {test : α → Bool} (decides : ∀ y, test y = true ↔ p y) :
    xs.find? test = some x ↔ IsFirst p xs x := by
  rw [List.find?_eq_some_iff_append, IsFirst, decides]
  simp only [Bool.not_eq_true', ← decides, Bool.not_eq_true]

/-- A search by a function finds what it makes of the first entry it makes something of. -/
theorem findSome?_eq_some_iff_isFirst {f : α → Option β} {b : β}
    (decides : ∀ y, (f y).isSome ↔ p y) :
    xs.findSome? f = some b ↔ ∃ x, IsFirst p xs x ∧ f x = some b := by
  rw [List.findSome?_eq_some_iff]
  simp only [IsFirst, ← decides, Bool.not_eq_true, Option.isSome_eq_false_iff,
    Option.isNone_iff_eq_none]
  apply Iff.intro
  · intro parts
    obtain ⟨before, x, after, split, made, others⟩ := parts
    exact ⟨x, ⟨by simp [made], before, after, split, others⟩, made⟩
  · intro parts
    obtain ⟨x, ⟨_, before, after, split, others⟩, made⟩ := parts
    exact ⟨before, x, after, split, made, others⟩

/-- The first entry of a part is the first entry of the whole that is in the part. -/
theorem isFirst_filter_iff {part : α → Bool} {q : α → Prop} (decides : ∀ y, part y = true ↔ q y) :
    IsFirst p (xs.filter part) x ↔ IsFirst (fun y => q y ∧ p y) xs x := by
  classical
  have inPart : (xs.filter part).find? (fun y => decide (p y)) = some x ↔
      IsFirst p (xs.filter part) x := find?_eq_some_iff_isFirst (by simp)
  rw [← inPart, List.find?_filter]
  exact find?_eq_some_iff_isFirst (by simp [decides])

end First

open Detection (Marker Evidence Finding Detector dispatchNeedles)

namespace Comment

/-- The comment line is a remark, neither bytecode nor a scope line, and its lowercase form
contains the needle. -/
def Mentions (comment : Comment) (needle : String) : Prop :=
  comment.isBytecode = false ∧ Scope.Frame.ofLine? comment.text = none ∧
    needle.toList <:+: (Text.lowercased comment.text).toList

/-- The comment line is a remark that contains the needle of one of the markers. -/
def ShowsMarker (markers : List Marker) (comment : Comment) : Prop :=
  ∃ marker ∈ markers, comment.Mentions marker.needle

/-- The comment line is a remark of a dispatch. -/
def ShowsDispatch (comment : Comment) : Prop :=
  ∃ needle ∈ dispatchNeedles, comment.Mentions needle

/-- A comment line mentions what a remark contains. -/
theorem mentions_iff {comment : Comment} {needle : String} :
    comment.Mentions needle ↔
      comment.isRemark = true ∧ Text.contains (Text.lowercased comment.text) needle = true := by
  simp [Mentions, isRemark, Text.contains, Text.occursIn_iff, and_assoc]

/-- The first marker that a comment line shows. -/
def markerIn? (markers : List Marker) (comment : Comment) : Option Marker :=
  if comment.isRemark then Detection.markerIn? markers (Text.lowercased comment.text) else none

/-- The marker of a comment line is the first one that it mentions. -/
theorem markerIn?_eq_some_iff {markers : List Marker} {comment : Comment} {marker : Marker} :
    comment.markerIn? markers = some marker ↔
      IsFirst (fun marker => comment.Mentions marker.needle) markers marker := by
  by_cases remark : comment.isRemark = true
  · rw [markerIn?, if_pos remark, Detection.markerIn?]
    exact find?_eq_some_iff_isFirst fun other => by simp [mentions_iff, remark]
  · simp [markerIn?, remark, IsFirst, mentions_iff]

/-- A comment line has a marker when it mentions one. -/
theorem isSome_markerIn? {markers : List Marker} {comment : Comment} :
    (comment.markerIn? markers).isSome ↔ comment.ShowsMarker markers := by
  by_cases remark : comment.isRemark = true
  · simp [markerIn?, remark, Detection.markerIn?, ShowsMarker, mentions_iff]
  · simp [markerIn?, remark, ShowsMarker, mentions_iff]

end Comment

namespace Instruction

/-- The marker in an instruction's remarks is the marker in its comment lines. -/
theorem findSome?_remarks (instruction : Instruction) (markers : List Marker) :
    instruction.remarks.findSome? (Detection.markerIn? markers) =
      instruction.comments.findSome? (Comment.markerIn? markers) := by
  rw [remarks, List.findSome?_map]
  induction instruction.comments with
  | nil => rfl
  | cons comment rest ih =>
    by_cases remark : comment.isRemark = true
    · simp [remark, Comment.markerIn?, List.findSome?_cons, ih]
    · simp [remark, Comment.markerIn?, ih]

/-- An instruction's remarks show a dispatch when one of its comment lines does. -/
theorem any_showsDispatch_remarks {instruction : Instruction} :
    instruction.remarks.any Detection.showsDispatch = true ↔
      ∃ comment ∈ instruction.comments, comment.ShowsDispatch := by
  simp only [remarks, List.any_map, List.any_filter, List.any_eq_true, Bool.and_eq_true,
    Function.comp_apply, Detection.showsDispatch, Comment.ShowsDispatch, Comment.mentions_iff]
  apply Iff.intro
  · intro parts
    obtain ⟨comment, mem, remark, needle, listed, occurs⟩ := parts
    exact ⟨comment, mem, needle, listed, remark, occurs⟩
  · intro parts
    obtain ⟨comment, mem, needle, listed, remark, occurs⟩ := parts
    exact ⟨comment, mem, remark, needle, listed, occurs⟩

/-- The instruction was emitted for the offset of the member itself, not for an inlined callee. -/
def IsDirect (instruction : Instruction) (member : Member) (offset : UInt32) : Prop :=
  ⟨offset, false⟩ ∈ Scope.links member instruction

/-- Some comment line of the instruction shows a marker. -/
def ShowsMarker (markers : List Marker) (instruction : Instruction) : Prop :=
  ∃ comment ∈ instruction.comments, comment.ShowsMarker markers

/-- Some comment line of the instruction shows a dispatch. -/
def ShowsDispatch (instruction : Instruction) : Prop :=
  ∃ comment ∈ instruction.comments, comment.ShowsDispatch

end Instruction

namespace Method

variable {method : Method} {offset : UInt32}

/-- The call site that counts at an offset is the first virtual or interface call there. Static
and special calls never stand in its way. -/
theorem siteAt?_eq_some_iff {site : CallSite} :
    method.siteAt? offset = some site ↔
      IsFirst (fun site => (site.kind = .virtual ∨ site.kind = .interface) ∧ site.offset = offset)
        method.callSites site := by
  rw [siteAt?, dispatchedSites, find?_eq_some_iff_isFirst (p := fun site => site.offset = offset)
    (by simp)]
  exact isFirst_filter_iff fun site => site.kind.isDispatched_iff

/-- Some call site counts at an offset when a virtual or interface call stands there. -/
theorem isSome_siteAt? :
    (method.siteAt? offset).isSome ↔
      ∃ site ∈ method.callSites,
        (site.kind = .virtual ∨ site.kind = .interface) ∧ site.offset = offset := by
  simp [siteAt?, dispatchedSites, CallKind.isDispatched_iff]

/-- The link of an instruction of the call itself is direct. -/
theorem linkedAt?_beq_iff {instruction : Instruction} :
    (Scope.linkedAt? method.member offset instruction == some false) = true ↔
      instruction.IsDirect method.member offset := by
  rw [beq_iff_eq, Scope.linkedAt?_eq_some_iff, Instruction.IsDirect]

/-- An instruction is of the call itself when it stands in the code and its link is direct. -/
theorem mem_directlyLinkedTo {instruction : Instruction} :
    instruction ∈ method.directlyLinkedTo offset ↔
      instruction ∈ method.instructions ∧ instruction.IsDirect method.member offset := by
  rw [directlyLinkedTo, List.mem_filter, linkedAt?_beq_iff]

/-- The first instruction of the call itself with a property is the first one of the code that
has the property and is of the call itself. -/
theorem isFirst_directlyLinkedTo {p : Instruction → Prop} {instruction : Instruction} :
    IsFirst p (method.directlyLinkedTo offset) instruction ↔
      IsFirst (fun instruction => instruction.IsDirect method.member offset ∧ p instruction)
        method.instructions instruction :=
  isFirst_filter_iff fun _ => linkedAt?_beq_iff

end Method

namespace Detection

/-- A dispatch decides against a call when some instruction of the call itself shows one. -/
theorem hasDispatch_iff {instructions : List Instruction} :
    hasDispatch instructions = true ↔ ∃ instruction ∈ instructions, instruction.ShowsDispatch := by
  simp only [hasDispatch, List.any_eq_true (l := instructions),
    Instruction.any_showsDispatch_remarks, Instruction.ShowsDispatch]

end Detection

/-- No code of the call itself at the offset shows a dispatch. -/
def Method.IsUndispatched (method : Method) (offset : UInt32) : Prop :=
  ∀ instruction ∈ method.instructions, instruction.IsDirect method.member offset →
    ¬ instruction.ShowsDispatch

/-- A call is undispatched where the detector sees no dispatch. -/
theorem Method.isUndispatched_iff {method : Method} {offset : UInt32} :
    method.IsUndispatched offset ↔
      ¬ Detection.hasDispatch (method.directlyLinkedTo offset) = true := by
  simp only [Detection.hasDispatch_iff, mem_directlyLinkedTo, not_exists, not_and, and_imp,
    IsUndispatched]

namespace Detection

namespace Detector

variable {detector : Detector} {instructions : List Instruction}

/-- An instruction is evidence when one of its comment lines shows a marker. -/
theorem isSome_instructionEvidence {markers : List Marker} {instruction : Instruction} :
    ((instruction.remarks.findSome? (markerIn? markers)).map fun marker =>
        (⟨marker.text, instruction.address⟩ : Evidence)).isSome ↔
      instruction.ShowsMarker markers := by
  simp only [Option.isSome_map, Instruction.findSome?_remarks, List.findSome?_isSome_iff,
    Comment.isSome_markerIn?, Instruction.ShowsMarker]

/-- The evidence is the first marker on the first line of the first instruction that shows one. -/
theorem markerEvidence?_eq_some_iff {evidence : Evidence} :
    detector.markerEvidence? instructions = some evidence ↔
      ∃ instruction comment marker,
        IsFirst (Instruction.ShowsMarker detector.markers) instructions instruction ∧
        IsFirst (Comment.ShowsMarker detector.markers) instruction.comments comment ∧
        IsFirst (fun marker => comment.Mentions marker.needle) detector.markers marker ∧
        evidence = ⟨marker.text, instruction.address⟩ := by
  have onLine (instruction : Instruction) (marker : Marker) :
      instruction.remarks.findSome? (markerIn? detector.markers) = some marker ↔
        ∃ comment, IsFirst (Comment.ShowsMarker detector.markers) instruction.comments comment ∧
          IsFirst (fun marker => comment.Mentions marker.needle) detector.markers marker := by
    rw [Instruction.findSome?_remarks,
      findSome?_eq_some_iff_isFirst fun comment => Comment.isSome_markerIn?]
    simp only [Comment.markerIn?_eq_some_iff]
  rw [markerEvidence?,
    findSome?_eq_some_iff_isFirst fun instruction => isSome_instructionEvidence]
  simp only [Option.map_eq_some_iff, onLine]
  apply Iff.intro
  · intro parts
    obtain ⟨instruction, first, marker, ⟨comment, line, word⟩, made⟩ := parts
    exact ⟨instruction, comment, marker, first, line, word, made.symm⟩
  · intro parts
    obtain ⟨instruction, comment, marker, first, line, word, made⟩ := parts
    exact ⟨instruction, first, marker, ⟨comment, line, word⟩, made.symm⟩

/-- There is evidence when some instruction shows a marker. -/
theorem isSome_markerEvidence? :
    (detector.markerEvidence? instructions).isSome ↔
      ∃ instruction ∈ instructions, instruction.ShowsMarker detector.markers := by
  simp only [markerEvidence?, List.findSome?_isSome_iff, isSome_instructionEvidence]

/-- There is evidence at a call site where no dispatch is shown and a marker or the hierarchy has
some. -/
theorem isSome_evidenceAt?_iff {method : Method} {site : CallSite} :
    (detector.evidenceAt? method site).isSome ↔
      method.IsUndispatched site.offset ∧
        ((detector.markerEvidence? (method.directlyLinkedTo site.offset)).isSome ∨
          (detector.hierarchyEvidence? site.target (method.directlyLinkedTo site.offset)
            (method.linkedTo site.offset)).isSome) := by
  rw [evidenceAt?, Method.isUndispatched_iff]
  by_cases dispatch : hasDispatch (method.directlyLinkedTo site.offset) = true
  · simp [dispatch]
  · simp [dispatch, Option.isSome_or]

/-- Without a hierarchy only markers are evidence. -/
theorem evidenceAt?_of_no_hierarchy (markers : List Marker) (method : Method) (site : CallSite) :
    (⟨markers, none⟩ : Detector).evidenceAt? method site =
      if hasDispatch (method.directlyLinkedTo site.offset) then none
      else (⟨markers, none⟩ : Detector).markerEvidence? (method.directlyLinkedTo site.offset) := by
  simp [evidenceAt?, hierarchyEvidence?]

/-- Without a hierarchy there is evidence at a call site when some instruction of the call itself
shows a marker and none shows a dispatch. -/
theorem isSome_evidenceAt?_of_no_hierarchy {markers : List Marker} {method : Method}
    {site : CallSite} :
    ((⟨markers, none⟩ : Detector).evidenceAt? method site).isSome ↔
      (∃ instruction ∈ method.instructions, instruction.IsDirect method.member site.offset ∧
        instruction.ShowsMarker markers) ∧
      ∀ instruction ∈ method.instructions, instruction.IsDirect method.member site.offset →
        ¬ instruction.ShowsDispatch := by
  rw [isSome_evidenceAt?_iff, isSome_markerEvidence?, and_comm]
  simp only [Method.mem_directlyLinkedTo, and_assoc, hierarchyEvidence?, Option.bind_eq_bind,
    Option.bind_none, Option.isSome_none, Bool.false_eq_true, or_false, Method.IsUndispatched]

/-- Without a hierarchy, whatever the markers, an offset is reported exactly when a virtual or
interface call stands there, some instruction of the call itself shows a marker, and none shows
a dispatch. The findings ascend strictly by offset. Each names the first such call site, the
first marker on the first line of the first instruction that shows one, and the address of that
instruction. -/
theorem find_without_hierarchy (markers : List Marker) (method : Method) :
    (∀ offset, (∃ finding ∈ (⟨markers, none⟩ : Detector).find method, finding.offset = offset) ↔
      (∃ site ∈ method.callSites,
        (site.kind = .virtual ∨ site.kind = .interface) ∧ site.offset = offset) ∧
      (∃ instruction ∈ method.instructions, instruction.IsDirect method.member offset ∧
        instruction.ShowsMarker markers) ∧
      ∀ instruction ∈ method.instructions, instruction.IsDirect method.member offset →
        ¬ instruction.ShowsDispatch) ∧
    ((⟨markers, none⟩ : Detector).find method).Pairwise (·.offset < ·.offset) ∧
    ∀ finding ∈ (⟨markers, none⟩ : Detector).find method, ∃ site instruction comment marker,
      IsFirst (fun site => (site.kind = .virtual ∨ site.kind = .interface) ∧
        site.offset = finding.offset) method.callSites site ∧
      IsFirst (fun instruction => instruction.IsDirect method.member finding.offset ∧
        instruction.ShowsMarker markers) method.instructions instruction ∧
      IsFirst (Comment.ShowsMarker markers) instruction.comments comment ∧
      IsFirst (fun marker => comment.Mentions marker.needle) markers marker ∧
      finding = ⟨method.member, finding.offset, site.kind, site.target, marker.text,
        instruction.address⟩ := by
  refine ⟨fun offset => ?_, pairwise_find _ method, fun finding mem => ?_⟩
  · rw [exists_finding_iff, ← Method.isSome_siteAt?, Option.isSome_iff_exists, ← exists_and_right]
    apply exists_congr
    intro site
    apply and_congr_right
    intro stands
    rw [isSome_evidenceAt?_of_no_hierarchy, (Method.siteAt?_eq_some stands).2]
  · obtain ⟨site, evidence, stands, shown, rfl⟩ := mem_find.mp mem
    rw [evidenceAt?_of_no_hierarchy] at shown
    split at shown
    · cases shown
    · obtain ⟨instruction, comment, marker, first, line, word, rfl⟩ :=
        markerEvidence?_eq_some_iff.mp shown
      exact ⟨site, instruction, comment, marker, Method.siteAt?_eq_some_iff.mp stands,
        Method.isFirst_directlyLinkedTo.mp first, line, word, rfl⟩

end Detector

end Detection

end Devirt
