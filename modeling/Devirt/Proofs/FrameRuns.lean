import Devirt.Proofs.Links

/-!
# Links read off runs of comment lines

The links of an instruction, told by its comment lines as they stand. Lines that name frames stand
in runs, each as long as possible. In a run only the last activation of the member counts, for the
offset it names. It makes the instruction the member's own code when it is the first line of the
run, and code of an inlined callee when it is not. A label makes it the member's own code as well.

Several runs, and the label, may speak of one offset. Then there is one link to it, and that it is
direct counts before that it is inlined. How lines and labels are read has no part in this.
-/

namespace Devirt.Scope

/-- These are the frames named by lines that stand next to one another and cannot be more: the line
in front of them and the line behind them, if there are such lines, name no frame. -/
def IsRun (comments : List Comment) (frames : List Frame) : Prop :=
  ∃ before run behind, comments = before ++ run ++ behind ∧
    run.map (fun comment => Frame.ofLine? comment.text) = frames.map some ∧
    (∀ comment ∈ before.getLast?, Frame.ofLine? comment.text = none) ∧
    ∀ comment ∈ behind.head?, Frame.ofLine? comment.text = none

/-- The frame behind the given ones is an activation of the member, and none behind it is. -/
def IsLastActivation (member : Member) (frames before : List Frame) (frame : Frame) : Prop :=
  ∃ behind, frames = before ++ frame :: behind ∧ frame.names member = true ∧
    ∀ other ∈ behind, other.names member = false

variable {member : Member} {comments : List Comment} {frames : List Frame} {offset : UInt32}
  {instruction : Instruction}

/-- The runs of comment lines are the stacks that they describe. -/
theorem isRun_iff : IsRun comments frames ↔ frames ∈ frameStacks comments := by
  rw [frameStacks, mem_stretches_iff]
  apply Iff.intro
  · intro parts
    obtain ⟨before, run, behind, rfl, named, starts, ends⟩ := parts
    refine ⟨_, _, by rw [List.map_append, List.map_append, named], ?_, ?_⟩
    · intro entry mem
      rw [List.getLast?_map] at mem
      obtain ⟨comment, last, rfl⟩ := Option.map_eq_some_iff.mp mem
      exact starts comment last
    · intro entry mem
      rw [List.head?_map] at mem
      obtain ⟨comment, first, rfl⟩ := Option.map_eq_some_iff.mp mem
      exact ends comment first
  · intro parts
    obtain ⟨_, _, whole, starts, ends⟩ := parts
    obtain ⟨_, behind, rfl, front, rfl⟩ := List.map_eq_append_iff.mp whole
    obtain ⟨before, run, rfl, rfl, named⟩ := List.map_eq_append_iff.mp front
    refine ⟨before, run, behind, rfl, named, fun comment last => ?_, fun comment first => ?_⟩
    · exact starts _ (by rw [List.getLast?_map, last]; rfl)
    · exact ends _ (by rw [List.head?_map, first]; rfl)

/-- A run links to the offset of its last activation, as inlined code unless that is its first
frame. -/
theorem mem_stackLinks_iff {inlined : Bool} :
    ⟨offset, inlined⟩ ∈ (frameStacks comments).filterMap (stackLink? member) ↔
      ∃ frames before frame, IsRun comments frames ∧ IsLastActivation member frames before frame ∧
        frame.offset = offset ∧ decide (before ≠ []) = inlined := by
  rw [List.mem_filterMap]
  apply Iff.intro
  · intro parts
    obtain ⟨frames, mem, linked⟩ := parts
    obtain ⟨before, frame, behind, whole, activation, others, same⟩ :=
      stackLink?_eq_some_iff.mp linked
    obtain ⟨rfl, rfl⟩ := Link.mk.inj same
    exact ⟨frames, before, frame, isRun_iff.mpr mem, ⟨behind, whole, activation, others⟩, rfl, rfl⟩
  · intro parts
    obtain ⟨frames, before, frame, run, ⟨behind, whole, activation, others⟩, rfl, rfl⟩ := parts
    exact ⟨frames, isRun_iff.mp run,
      stackLink?_eq_some_iff.mpr ⟨before, frame, behind, whole, activation, others, rfl⟩⟩

/-- A label links to the offset it names, and only directly. -/
theorem mem_labelLink?_iff {inlined : Bool} :
    ⟨offset, inlined⟩ ∈ (labelLink? instruction.label).toList ↔
      instruction.label.bind labelOffset? = some offset ∧ inlined = false := by
  rw [labelLink?, Option.mem_toList, Option.map_eq_some_iff]
  simp [eq_comm]

/-- The links of an instruction, told by its label and its comment lines. They ascend strictly by
offset, so there is at most one to an offset. It is direct exactly when the label names the offset
or the last activation of the member in some run of scope lines is the first line of the run and
names the offset. It is inlined exactly when there is no direct one and the last activation of the
member in some run is not the first line of the run and names the offset. -/
theorem links_told_by_runs (member : Member) (instruction : Instruction) :
    (links member instruction).Pairwise (·.offset < ·.offset) ∧
      (∀ offset, ⟨offset, false⟩ ∈ links member instruction ↔
        instruction.label.bind labelOffset? = some offset ∨
          ∃ frames frame, IsRun instruction.comments frames ∧
            IsLastActivation member frames [] frame ∧ frame.offset = offset) ∧
      ∀ offset, ⟨offset, true⟩ ∈ links member instruction ↔
        ⟨offset, false⟩ ∉ links member instruction ∧
          ∃ frames before frame, IsRun instruction.comments frames ∧
            IsLastActivation member frames before frame ∧ before ≠ [] ∧ frame.offset = offset := by
  refine ⟨pairwise_links member instruction, fun offset => ?_, fun offset => ?_⟩
  · rw [mem_links_direct_iff, singleLinks, List.mem_append, mem_labelLink?_iff, mem_stackLinks_iff]
    refine or_congr (and_iff_left rfl) ⟨fun parts => ?_, fun parts => ?_⟩
    · obtain ⟨frames, before, frame, run, activation, there, first⟩ := parts
      obtain rfl : before = [] := by simpa using first
      exact ⟨frames, frame, run, activation, there⟩
    · obtain ⟨frames, frame, run, activation, there⟩ := parts
      exact ⟨frames, [], frame, run, activation, there, rfl⟩
  · rw [mem_links_inlined_iff, ← mem_links_direct_iff, singleLinks, List.mem_append,
      mem_labelLink?_iff, mem_stackLinks_iff, and_comm]
    refine and_congr_right fun _ => ⟨fun parts => ?_, fun parts => ?_⟩
    · obtain ⟨_, label⟩ | ⟨frames, before, frame, run, activation, there, inner⟩ := parts
      · cases label
      · exact ⟨frames, before, frame, run, activation, by simpa using inner, there⟩
    · obtain ⟨frames, before, frame, run, activation, inner, there⟩ := parts
      exact .inr ⟨frames, before, frame, run, activation, there, by simpa using inner⟩

end Devirt.Scope
