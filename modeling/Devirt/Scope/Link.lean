import Devirt.Ascending
import Devirt.Instruction.Basic
import Devirt.Scope.Frame
import Devirt.Text.Line

/-!
# Links from an instruction to a method's bytecode

An instruction is linked to the bytecode offsets of a method that it was emitted for. Its label
may name an offset. Its scope lines name the frames of the call stack, innermost first, and
consecutive scope lines describe one stack. The last frame of a stack that is an activation of
the method is its outermost one. If that frame is also the innermost, the instruction is the
method's own code; otherwise it is code of a callee that was inlined at that offset.

An instruction has at most one link to an offset, and a direct one counts before an inlined one.
-/

namespace Devirt.Scope

/-- An instruction was emitted for the offset, for the method itself or for an inlined callee. -/
structure Link where
  offset : UInt32
  inlined : Bool
deriving DecidableEq, Repr

/-- Two links to one offset as one link. -/
def Link.combine (a b : Link) : Link := ⟨a.offset, a.inlined && b.inlined⟩

/-- The link of one stack of frames, innermost first. -/
def stackLink? (member : Member) (stack : List Frame) : Option Link :=
  let activations := stack.zipIdx.filter fun (frame, _) => frame.names member
  activations.getLast?.map fun (frame, position) => ⟨frame.offset, position != 0⟩

/-- The stacks that comment lines describe. -/
def frameStacks (comments : List Comment) : List (List Frame) :=
  stretches (comments.map fun comment => Frame.ofLine? comment.text)

/-- The link that a label names. -/
def labelLink? (label : Option String) : Option Link :=
  (label.bind labelOffset?).map fun offset => ⟨offset, false⟩

/-- The links of an instruction to the method's bytecode, ascending by offset. -/
def links (member : Member) (instruction : Instruction) : List Link :=
  let found := (labelLink? instruction.label).toList ++
    (frameStacks instruction.comments).filterMap (stackLink? member)
  found.foldr (insertAscending Link.offset Link.combine) []

end Devirt.Scope
