import Devirt.Proofs.Independence
import Devirt.Proofs.Links
import Devirt.Proofs.ScopeLines

/-!
# Code of inlined callees

The comment lines of an instruction show bytecode, then the frames of its call stack, innermost
first, then relocations. Only the lines of frames name frames, so the frames make one stack, and
code of a callee is linked to the call it was inlined at as inlined code. What is remarked about
such an instruction then has no part in what is found at the call.

A frame without an index breaks the stack. The activation behind it may then be taken for the
innermost frame, and the callee's code for the call itself.
-/

namespace Devirt

namespace Scope

section Lines

/-- Whether a comment line quotes bytecode: a star stands behind the semicolon. -/
def isBytecodeLine (comment : Comment) : Bool :=
  match comment.text.toList with
  | ';' :: '*' :: _ => true
  | _ => false

/-- Whether a comment line shows a relocation: a brace is the first visible character behind the
semicolon. -/
def isRelocationLine (comment : Comment) : Bool :=
  match comment.text.toList with
  | ';' :: cs => (Text.trimStart cs).head? == some '{'
  | _ => false

/-- A line without a dash behind the first semicolon names no frame. -/
theorem readFrame?_eq_none {cs : List Char} (noDash : (Text.trimStart cs).head? ≠ some '-') :
    readFrame? (';' :: cs) = none := by
  have stop : readBeginning? ['-'] (Text.trimStart cs) = none := by
    cases start : Text.trimStart cs with
    | nil => rfl
    | cons c rest =>
      have other : '-' ≠ c := fun same => noDash (by rw [start, ← same]; rfl)
      rw [readBeginning?, if_neg other]
  rw [readFrame?, readDash?]
  simp [stop]

/-- The frame of a comment line is read off its text as it is. -/
theorem ofLine?_text (comment : Comment) :
    Frame.ofLine? comment.text = readFrame? comment.text.toList := by
  rw [Frame.ofLine?, Text.trim_eq_self comment.hasBareEnds]

/-- A line that quotes bytecode names no frame. -/
theorem ofLine?_bytecode {comment : Comment} (quoted : isBytecodeLine comment = true) :
    Frame.ofLine? comment.text = none := by
  rw [isBytecodeLine] at quoted
  rw [ofLine?_text]
  split at quoted
  · rename_i starts
    rw [starts]
    exact readFrame?_eq_none (by rw [Text.trimStart_cons_of_not_blank (by decide)]; simp)
  · exact absurd quoted Bool.false_ne_true

/-- A line that shows a relocation names no frame. -/
theorem ofLine?_relocation {comment : Comment} (shown : isRelocationLine comment = true) :
    Frame.ofLine? comment.text = none := by
  rw [isRelocationLine] at shown
  rw [ofLine?_text]
  split at shown
  · rename_i cs starts
    rw [starts]
    rw [beq_iff_eq] at shown
    exact readFrame?_eq_none (by simp [shown])
  · exact absurd shown Bool.false_ne_true

namespace WrittenFrame

/-- The comment line of a frame names the frame. -/
theorem ofLine?_comment (frame : WrittenFrame) :
    Frame.ofLine? frame.comment.text = frame.named? := by
  have whole : frame.comment.text.toList = frame.text.toList := by
    rw [show frame.comment.text = Text.trimmed frame.text from rfl, Text.trimmed,
      String.toList_ofList, Text.trim_eq_self frame.hasBareEnds_text]
  rw [Scope.ofLine?_text, whole, readFrame?_text]

/-- Whether the frame is an activation of the member. Its index has no part in this. -/
def names (frame : WrittenFrame) (member : Member) : Bool :=
  Frame.names ⟨frame.className, frame.methodName, 0, none⟩ member

/-- A scope line names the frame at its index. -/
theorem named?_of_index {written : WrittenFrame} {offset : UInt32}
    (indexed : written.index = some offset) : written.named? = some (written.withIndex offset) := by
  rw [named?, indexed, Option.map_some]

/-- A scope line names a frame exactly when it has an index. -/
theorem isSome_named? {written : WrittenFrame} :
    written.named?.isSome = written.index.isSome :=
  Option.isSome_map

/-- A scope line names no frame exactly when it has no index. -/
theorem named?_eq_none_iff {written : WrittenFrame} :
    written.named? = none ↔ written.index = none :=
  Option.map_eq_none_iff

/-- The frame that a scope line names is an activation of the same members. -/
theorem names_of_named? {written : WrittenFrame} {frame : Frame}
    (named : written.named? = some frame) (member : Member) :
    frame.names member = written.names member := by
  obtain ⟨index, _, rfl⟩ := Option.map_eq_some_iff.mp named
  rfl

/-- A scope line with the names of a member is an activation of it, unless there are slashes in
its class name. -/
theorem names_of_eq {written : WrittenFrame} {member : Member}
    (dotted : '/' ∉ member.className.toList) (sameClass : written.className = member.className)
    (sameName : written.methodName = member.name) : written.names member = true := by
  have dots : (member.className.toList.map fun c => if c = '/' then '.' else c) =
      member.className.toList := by
    refine (List.map_congr_left fun c mem => if_neg ?_).trans (List.map_id' _)
    exact fun slash => dotted (slash ▸ mem)
  simp [names, Frame.names, sameClass, sameName, dots]

end WrittenFrame

end Lines

/-- The comment lines of an instruction: bytecode, the frames of its call stack, innermost first,
and relocations. -/
structure EmissionNote where
  bytecode : List Comment
  frames : List WrittenFrame
  relocations : List Comment
  bytecodeShown : ∀ comment ∈ bytecode, isBytecodeLine comment = true := by decide +kernel
  relocationsShown : ∀ comment ∈ relocations, isRelocationLine comment = true := by decide +kernel

/-- An activation of the member at the offset is taken for the innermost frame of a stack: no frame
with an index stands directly in front of it, and it is the last activation before the next frame
without one. -/
def TakenForInnermost (member : Member) (offset : UInt32) (frames : List WrittenFrame) : Prop :=
  ∃ before frame behind, frames = before ++ frame :: behind ∧
    (∀ other ∈ before.getLast?, other.index = none) ∧
    frame.index = some offset ∧ frame.names member = true ∧
    ∀ other ∈ behind.takeWhile (·.index.isSome), other.names member = false

namespace EmissionNote

variable {member : Member} {offset : UInt32} {instruction : Instruction} {note : EmissionNote}

/-- The comment lines in order. -/
def comments (note : EmissionNote) : List Comment :=
  note.bytecode ++ note.frames.map (·.comment) ++ note.relocations

/-- Only the frames count for the links of an instruction without a label. -/
theorem singleLinks_eq (unlabelled : instruction.label = none)
    (noted : instruction.comments = note.comments) :
    singleLinks member instruction =
      (stretches (note.frames.map (·.named?))).filterMap (stackLink? member) := by
  have entries : note.comments.map (fun comment => Frame.ofLine? comment.text) =
      note.bytecode.map (fun comment => Frame.ofLine? comment.text) ++
        note.frames.map (·.named?) ++
        note.relocations.map (fun comment => Frame.ofLine? comment.text) := by
    simp [comments, Function.comp_def, WrittenFrame.ofLine?_comment]
  rw [singleLinks, unlabelled, noted, frameStacks, entries, filterMap_stretches_append rfl]
  · rfl
  · exact List.forall_mem_map.mpr fun _ mem => ofLine?_bytecode (note.bytecodeShown _ mem)
  · exact List.forall_mem_map.mpr fun _ mem => ofLine?_relocation (note.relocationsShown _ mem)

end EmissionNote

section Stacks

variable {member : Member} {offset : UInt32} {frames inner : List WrittenFrame}
  {own : WrittenFrame}

/-- A direct link comes from an activation that is taken for the innermost frame. -/
theorem mem_stackLinks_named_iff :
    ⟨offset, false⟩ ∈ (stretches (frames.map (·.named?))).filterMap (stackLink? member) ↔
      TakenForInnermost member offset frames := by
  have run (behind : List WrittenFrame) : (behind.map (·.named?)).takeWhile Option.isSome =
      (behind.takeWhile (·.index.isSome)).map (·.named?) := by
    rw [List.takeWhile_map]
    simp [Function.comp_def, WrittenFrame.named?]
  rw [mem_stackLinks_direct_iff]
  apply Iff.intro
  · intro parts
    obtain ⟨_, frame, _, whole, starts, activation, others, rfl⟩ := parts
    obtain ⟨before, _, rfl, rfl, split⟩ := List.map_eq_append_iff.mp whole
    obtain ⟨written, behind, rfl, named, rfl⟩ := List.map_eq_cons_iff.mp split
    refine ⟨before, written, behind, rfl, ?_, ?_, ?_, ?_⟩
    · intro other mem
      refine WrittenFrame.named?_eq_none_iff.mp (starts other.named? ?_)
      simp [List.getLast?_map, Option.mem_def.mp mem]
    · obtain ⟨index, indexed, rfl⟩ := Option.map_eq_some_iff.mp named
      exact indexed
    · rw [← WrittenFrame.names_of_named? named]
      exact activation
    · intro other mem
      have indexed := Text.all_takeWhile _ _ other mem
      obtain ⟨found, foundNamed⟩ := Option.isSome_iff_exists.mp
        (WrittenFrame.isSome_named?.trans indexed)
      rw [← WrittenFrame.names_of_named? foundNamed]
      rw [run] at others
      exact others found (List.mem_map.mpr ⟨other, mem, foundNamed⟩)
  · intro parts
    obtain ⟨before, written, behind, rfl, starts, indexed, activation, others⟩ := parts
    have named := WrittenFrame.named?_of_index indexed
    refine ⟨before.map (·.named?), written.withIndex offset, behind.map (·.named?),
      by simp [named], ?_, ?_, ?_, rfl⟩
    · intro entry mem
      rw [List.getLast?_map] at mem
      obtain ⟨other, last, rfl⟩ := Option.map_eq_some_iff.mp mem
      exact WrittenFrame.named?_eq_none_iff.mpr (starts other last)
    · rw [WrittenFrame.names_of_named? named]
      exact activation
    · rw [run]
      intro found mem
      obtain ⟨other, otherMem, foundNamed⟩ := List.mem_map.mp mem
      rw [WrittenFrame.names_of_named? foundNamed]
      exact others other otherMem

/-- The offset of the last frame is linked in any case if that frame is an activation. -/
theorem exists_mem_stackLinks (inner : List WrittenFrame) (activation : own.names member = true)
    (indexed : own.index = some offset) :
    ∃ inlined, ⟨offset, inlined⟩ ∈
      (stretches ((inner ++ [own]).map (·.named?))).filterMap (stackLink? member) := by
  have named := WrittenFrame.named?_of_index indexed
  obtain ⟨front, last, _, split⟩ :=
    exists_stretches_append_some (inner.map (·.named?)) (own.withIndex offset)
  refine ⟨decide (last ≠ []), List.mem_filterMap.mpr ⟨last ++ [own.withIndex offset], ?_, ?_⟩⟩
  · rw [List.map_append, List.map_singleton, named, split]
    exact List.mem_append_right _ (List.mem_singleton_self _)
  · exact stackLink?_append_activation
      ((WrittenFrame.names_of_named? named member).trans activation)

/-- The frames make one stack if all have an index, so the only link is that of the last frame. -/
theorem stackLinks_eq_singleton (activation : own.names member = true)
    (indexed : own.index = some offset) (inlined : inner ≠ [])
    (complete : ∀ frame ∈ inner, frame.index.isSome = true) :
    (stretches ((inner ++ [own]).map (·.named?))).filterMap (stackLink? member) =
      [⟨offset, true⟩] := by
  have named := WrittenFrame.named?_of_index indexed
  obtain ⟨run, same⟩ : inner.map (·.named?) ∈ Set.range (List.map some) := by
    rw [Set.range_list_map]
    refine List.forall_mem_map.mpr fun frame mem => ?_
    obtain ⟨found, foundNamed⟩ := Option.isSome_iff_exists.mp
      (WrittenFrame.isSome_named?.trans (complete frame mem))
    exact ⟨found, foundNamed.symm⟩
  have notNil : run ≠ [] := by
    rintro rfl
    exact inlined (List.map_eq_nil_iff.mp same.symm)
  have whole : (inner ++ [own]).map (·.named?) = (run ++ [own.withIndex offset]).map some := by
    simp [← same, named]
  rw [whole, stretches_map_some, List.filterMap_cons_some
    (stackLink?_append_activation ((WrittenFrame.names_of_named? named member).trans activation))]
  simp [notNil, WrittenFrame.withIndex]

end Stacks

end Scope

open Scope (linkedAt?)

namespace Method

/-- The method with other native code. -/
def withCode (method : Method) (instructions : List Instruction) : Method :=
  { method with instructions := instructions }

variable {method : Method} {before after : List Instruction} {instruction other : Instruction}
  {offset : UInt32} (inlined : linkedAt? method.member offset instruction = some true)

include inlined

/-- Inlined code is no code of the call itself. -/
theorem directlyLinkedTo_withCode :
    (method.withCode (before ++ instruction :: after)).directlyLinkedTo offset =
      (method.withCode (before ++ after)).directlyLinkedTo offset := by
  simp [directlyLinkedTo, withCode, inlined]

/-- Inlined code is code of the call all the same. -/
theorem linkedTo_withCode :
    (method.withCode (before ++ instruction :: after)).linkedTo offset =
      (method.withCode before).linkedTo offset ++
        instruction :: (method.withCode after).linkedTo offset := by
  simp [linkedTo, withCode, inlined]

end Method

namespace Detection

namespace Detector

variable {detector : Detector} {method : Method} {offset : UInt32}

/-- Inlined code may be exchanged for other inlined code at the same address. -/
theorem filter_find_exchange (detector : Detector) {method : Method}
    {before after : List Instruction} {instruction other : Instruction}
    (inlined : linkedAt? method.member offset instruction = some true)
    (otherInlined : linkedAt? method.member offset other = some true)
    (sameAddress : other.address = instruction.address) :
    (detector.find (method.withCode (before ++ other :: after))).filter (·.offset == offset) =
      (detector.find (method.withCode (before ++ instruction :: after))).filter
        (·.offset == offset) := by
  refine filter_find_congr detector rfl rfl ?_ ?_
  · rw [Method.directlyLinkedTo_withCode inlined]
    exact congrArg _ (Method.directlyLinkedTo_withCode otherInlined)
  · rw [Method.linkedTo_withCode inlined, Method.linkedTo_withCode otherInlined]
    simp [sameAddress]

end Detector

open Scope

/-- An instruction whose comment lines show frames of callees in front of a frame of the member is
linked to the offset of that frame as inlined code, and nothing that is remarked about it counts
for the call there, unless an activation at the offset is taken for the innermost frame. That needs
a frame without an index among those of the callees. -/
theorem inlinedCode_apart_iff {member : Member} {offset : UInt32} {note : EmissionNote}
    {inner : List WrittenFrame} {own : WrittenFrame} {instruction : Instruction}
    (dotted : '/' ∉ member.className.toList) (ownClass : own.className = member.className)
    (ownName : own.methodName = member.name) (ownIndex : own.index = some offset)
    (inlined : inner ≠ []) (stacked : note.frames = inner ++ [own])
    (unlabelled : instruction.label = none) (noted : instruction.comments = note.comments) :
    (⟨offset, false⟩ ∈ links member instruction ↔
        TakenForInnermost member offset (inner ++ [own])) ∧
      (⟨offset, true⟩ ∈ links member instruction ↔
        ¬ TakenForInnermost member offset (inner ++ [own])) ∧
      ((∀ frame ∈ inner, frame.index.isSome = true) →
        links member instruction = [⟨offset, true⟩]) ∧
      (¬ TakenForInnermost member offset (inner ++ [own]) →
        ∀ (detector : Detector) (method : Method) (before after : List Instruction)
          (other : Instruction), method.member = member →
          ⟨offset, true⟩ ∈ links member other → other.address = instruction.address →
          (detector.find (method.withCode (before ++ other :: after))).filter
              (·.offset == offset) =
            (detector.find (method.withCode (before ++ instruction :: after))).filter
              (·.offset == offset)) := by
  have activation := WrittenFrame.names_of_eq dotted ownClass ownName
  have single : singleLinks member instruction =
      (stretches ((inner ++ [own]).map (·.named?))).filterMap (stackLink? member) := by
    rw [EmissionNote.singleLinks_eq unlabelled noted, stacked]
  have direct : ⟨offset, false⟩ ∈ links member instruction ↔
      TakenForInnermost member offset (inner ++ [own]) := by
    rw [mem_links_direct_iff, single, mem_stackLinks_named_iff]
  have asInlined : ⟨offset, true⟩ ∈ links member instruction ↔
      ¬ TakenForInnermost member offset (inner ++ [own]) := by
    rw [← direct, mem_links_direct_iff, mem_links_inlined_iff, and_iff_right_iff_imp, single]
    intro absent
    obtain ⟨kind, mem⟩ := exists_mem_stackLinks inner activation ownIndex
    cases kind with
    | false => exact absurd mem absent
    | true => exact mem
  refine ⟨direct, asInlined, fun complete => ?_, ?_⟩
  · have only := stackLinks_eq_singleton activation ownIndex inlined complete
    rw [← single, singleLinks] at only
    rw [links, only]
    rfl
  · intro apart detector method before after other sameMember otherInlined sameAddress
    subst sameMember
    exact Detector.filter_find_exchange detector
      (linkedAt?_eq_some_iff.mpr (asInlined.mpr apart))
      (linkedAt?_eq_some_iff.mpr otherInlined) sameAddress

section Shapes

/-- The method of the examples. -/
def canvasPaint : Member := ⟨"org.example.Canvas", "paint", "()V"⟩

/-- A frame of the method at a call. -/
def paintFrame (index : UInt32) : WrittenFrame :=
  ⟨"org.example.Canvas", "paint", some index, 12, by decide +kernel, by decide +kernel⟩

/-- A frame of the callee, at its entry if there is no index. -/
def areaFrame (index : Option UInt32) : WrittenFrame :=
  ⟨"org.example.Shape", "area", index, 7, by decide +kernel, by decide +kernel⟩

/-- What is noted about a call in the callee. -/
def nestedNote (inner : List WrittenFrame) : EmissionNote where
  bytecode := [Comment.ofText ";*invokevirtual size"]
  frames := inner ++ [paintFrame 5]
  relocations := [Comment.ofText ";   \x7boptimized virtual_call\x7d"]

/-- A call in the callee. -/
def nestedCall (inner : List WrittenFrame) : Instruction :=
  { address := 64, mnemonic := "call", comments := (nestedNote inner).comments }

/-- Code of a callee stays inlined code when the method itself was called in between. -/
theorem inlinedCode_of_recursion :
    let inner := [areaFrame (some 2), paintFrame 9, areaFrame (some 3)]
    '/' ∉ canvasPaint.className.toList ∧ inner ≠ [] ∧
      (nestedNote inner).frames = inner ++ [paintFrame 5] ∧
      (nestedCall inner).comments = (nestedNote inner).comments ∧
      (∀ frame ∈ inner, frame.index.isSome = true) ∧
      links canvasPaint (nestedCall inner) = [⟨5, true⟩] :=
  ⟨by decide, by simp, rfl, rfl, by decide,
    (inlinedCode_apart_iff (by decide) rfl rfl rfl (by simp) rfl rfl rfl).2.2.1 (by decide)⟩

/-- At the entry of a synchronized callee the callee's code is taken for the call itself. -/
theorem inlinedCode_of_entry_taken :
    links canvasPaint (nestedCall [areaFrame none]) = [⟨5, false⟩] := by
  decide +kernel

end Shapes

end Detection

end Devirt
