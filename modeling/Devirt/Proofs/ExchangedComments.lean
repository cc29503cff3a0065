import Devirt.Proofs.InlinedCode
import Devirt.Proofs.Reordering

/-!
# Names in comment lines are no evidence

Lines that quote bytecode and lines that name frames hold names of the program, and a name may read
like a remark of the compiler. They are told from remarks by their shape, so nothing that such a
line says counts as evidence. All that counts of it is its part in the links: a line of bytecode
ends a stack of frames, and a scope line adds a frame to it, of which it matters whether it is an
activation of the member and at which offset.

So lines of these two kinds may be exchanged, each for a line of its kind, as long as the
activations of the member stay where they are and keep their offsets. The lines may stand anywhere
in any of a method's instructions, and any number of them may be exchanged at once. Remarks are
left as they are.
-/

namespace Devirt

/-- Cutting a list into stretches does not look at its entries. -/
theorem stretches_map {α β : Type} (f : α → β) (entries : List (Option α)) :
    stretches (entries.map (Option.map f)) = (stretches entries).map (List.map f) := by
  induction entries with
  | nil => rfl
  | cons entry rest ih =>
    cases entry with
    | none => rw [List.map_cons, Option.map_none, stretches, stretches, ih]; rfl
    | some a =>
      rw [List.map_cons, Option.map_some, stretches, stretches, ih]
      cases stretches rest <;> rfl

namespace Scope

variable {member : Member} {instruction other : Instruction}

/-- The offset of a frame that is an activation of the member. -/
def Frame.activation? (frame : Frame) (member : Member) : Option UInt32 :=
  if frame.names member then some frame.offset else none

/-- The link of a stack, read off the activations in it. -/
def activationLink? (activations : List (Option UInt32)) : Option Link :=
  (activations.zipIdx.filterMap fun (activation, position) =>
    activation.map fun offset => ⟨offset, position != 0⟩).getLast?

/-- The link of a stack depends on the activations in it. -/
theorem stackLink?_eq_activationLink? (member : Member) (stack : List Frame) :
    stackLink? member stack = activationLink? (stack.map (·.activation? member)) := by
  rw [stackLink?, activationLink?, List.zipIdx_map, List.filterMap_map, ← List.getLast?_map]
  congr 1
  induction stack.zipIdx with
  | nil => rfl
  | cons entry rest ih =>
    by_cases activation : entry.1.names member = true
    · simp [Frame.activation?, activation, ih]
    · simp [Frame.activation?, activation, ih]

/-- The links of an instruction depend on its label and on the activations that its comment lines
name. -/
theorem links_congr (sameLabel : instruction.label = other.label)
    (sameFrames : (instruction.comments.map fun comment =>
        (Frame.ofLine? comment.text).map (·.activation? member)) =
      other.comments.map fun comment =>
        (Frame.ofLine? comment.text).map (·.activation? member)) :
    links member instruction = links member other := by
  have read (comments : List Comment) : (frameStacks comments).filterMap (stackLink? member) =
      (stretches (comments.map fun comment =>
        (Frame.ofLine? comment.text).map (·.activation? member))).filterMap activationLink? := by
    have cut := stretches_map (·.activation? member)
      (comments.map fun comment => Frame.ofLine? comment.text)
    rw [List.map_map] at cut
    rw [← Function.comp_def (Option.map _), cut, List.filterMap_map, frameStacks]
    congr 1
    funext stack
    exact stackLink?_eq_activationLink? member stack
  rw [links, links, read, read, sameLabel, sameFrames]

/-- A scope line has a dash behind its semicolons and blanks. -/
theorem head?_of_readFrame? {cs : List Char} {frame : Frame} (read : readFrame? cs = some frame) :
    (Text.trimStart (cs.dropWhile (· = ';'))).head? = some '-' := by
  -- Reading skips one semicolon, and the text here has lost all. With a second one in front there
  -- is no dash to be read, so the two agree.
  have dash (cs more : List Char) (begins : readBeginning? ['-'] (Text.trimStart cs) = some more) :
      (Text.trimStart (cs.dropWhile (· = ';'))).head? = some '-' := by
    cases cs with
    | nil => simp [Text.trimStart, readBeginning?] at begins
    | cons c rest =>
      by_cases semicolon : c = ';'
      · subst semicolon
        rw [Text.trimStart_cons_of_not_blank (by decide)] at begins
        simp [readBeginning?] at begins
      · rw [List.dropWhile_cons_of_neg (by simpa using semicolon)]
        cases stands : Text.trimStart (c :: rest) with
        | nil => simp [stands, readBeginning?] at begins
        | cons d rest =>
          rw [stands, readBeginning?, Option.ite_none_right_eq_some] at begins
          rw [List.head?_cons, begins.1]
  rw [readFrame?, Option.bind_eq_bind, Option.bind_eq_some_iff] at read
  obtain ⟨_, opened, _⟩ := read
  unfold readDash? at opened
  rw [Option.bind_eq_bind, Option.bind_eq_some_iff] at opened
  obtain ⟨more, begins, _⟩ := opened
  split at begins
  · rw [List.dropWhile_cons_of_pos (by simp)]
    exact dash _ _ begins
  · exact dash _ _ begins

/-- The frames say the same of a member: neither is an activation of it, or both are, at one
offset. -/
def Frame.SameFor (member : Member) (frame other : Frame) : Prop :=
  (frame.names member = false ∧ other.names member = false) ∨
    (frame.names member = true ∧ other.names member = true ∧ frame.offset = other.offset)

/-- Frames that say the same are activations of the member at one offset, or none. -/
theorem Frame.SameFor.activation? {frame other : Frame} (same : frame.SameFor member other) :
    frame.activation? member = other.activation? member := by
  rw [Frame.activation?, Frame.activation?]
  rcases same with ⟨neither, nor⟩ | ⟨both, and, offset⟩
  · rw [neither, nor]
    rfl
  · rw [both, and, offset]

end Scope

open Scope (Frame)

namespace Comment

/-- A line of bytecode names no frame. -/
theorem ofLine?_of_isBytecode {comment : Comment} (quoted : comment.isBytecode = true) :
    Frame.ofLine? comment.text = none := by
  rw [Scope.ofLine?_text, ← Option.not_isSome_iff_eq_none, Option.isSome_iff_exists]
  intro named
  obtain ⟨frame, read⟩ := named
  rw [isBytecode, Scope.head?_of_readFrame? read] at quoted
  exact absurd quoted (by decide)

/-- One comment line may stand for another in the code of a member: it is the same, or both quote
bytecode, or both name frames that say the same of the member. -/
inductive StandsFor (member : Member) : Comment → Comment → Prop
  | same (comment : Comment) : StandsFor member comment comment
  | bytecode {comment other : Comment} (quoted : comment.isBytecode = true)
      (otherQuoted : other.isBytecode = true) : StandsFor member comment other
  | scope {comment other : Comment} {frame otherFrame : Frame}
      (named : Frame.ofLine? comment.text = some frame)
      (otherNamed : Frame.ofLine? other.text = some otherFrame)
      (same : frame.SameFor member otherFrame) : StandsFor member comment other

variable {member : Member} {comment other : Comment}

/-- The comment line in lowercase, if it is a remark. -/
def remark? (comment : Comment) : Option String :=
  if comment.isRemark then some (Text.lowercased comment.text) else none

/-- A line that stands for another is the same remark or none. -/
theorem StandsFor.remark? (exchanged : comment.StandsFor member other) :
    comment.remark? = other.remark? := by
  cases exchanged with
  | same => rfl
  | bytecode quoted otherQuoted => simp [Comment.remark?, isRemark, quoted, otherQuoted]
  | scope named otherNamed => simp [Comment.remark?, isRemark, named, otherNamed]

/-- A line that stands for another names an activation at the same offset, a frame that is none, or
no frame. -/
theorem StandsFor.activation? (exchanged : comment.StandsFor member other) :
    (Frame.ofLine? comment.text).map (·.activation? member) =
      (Frame.ofLine? other.text).map (·.activation? member) := by
  cases exchanged with
  | same => rfl
  | bytecode quoted otherQuoted =>
    rw [ofLine?_of_isBytecode quoted, ofLine?_of_isBytecode otherQuoted]
  | scope named otherNamed same => rw [named, otherNamed, Option.map_some, Option.map_some,
      same.activation?]

end Comment

namespace Instruction

/-- The instruction differs from another in its comment lines at most, and each of them stands for
the one in its place. -/
def StandsFor (member : Member) (instruction other : Instruction) : Prop :=
  other = { instruction with comments := other.comments } ∧
    List.Forall₂ (Comment.StandsFor member) instruction.comments other.comments

variable {member : Member} {instruction other : Instruction}

/-- The remarks of an instruction are those of its comment lines that are remarks. -/
theorem remarks_eq_filterMap (instruction : Instruction) :
    instruction.remarks = (instruction.comments.map Comment.remark?).filterMap id := by
  rw [remarks, List.filterMap_map]
  induction instruction.comments with
  | nil => rfl
  | cons comment rest ih =>
    by_cases remark : comment.isRemark = true
    · simp [Comment.remark?, remark, ih]
    · simp [Comment.remark?, remark, ih]

/-- An instruction that stands for another has its links and says the same. -/
theorem StandsFor.links_testimony (exchanged : instruction.StandsFor member other) :
    (Scope.links member instruction, instruction.testimony) =
      (Scope.links member other, other.testimony) := by
  obtain ⟨rest, each⟩ := exchanged
  have sameRemarks := map_eq_of_forall₂ each fun _ _ stands => stands.remark?
  have sameFrames := map_eq_of_forall₂ each fun _ _ stands => stands.activation?
  have sameLabel : instruction.label = other.label := by rw [rest]
  have sameAddress : instruction.address = other.address := by rw [rest]
  rw [Scope.links_congr sameLabel sameFrames, testimony, testimony, remarks_eq_filterMap,
    remarks_eq_filterMap, sameRemarks, sameAddress]

end Instruction

namespace Detection.Detector

/-- Names in comment lines are no evidence. Any detector finds the same in a method when comment
lines of its code are exchanged one for one: lines of bytecode for lines of bytecode, and scope
lines for scope lines that say the same of the method, whatever else is written in them. -/
theorem names_are_no_evidence (detector : Detector) {method : Method} {code : List Instruction}
    (exchanged : List.Forall₂ (Instruction.StandsFor method.member) method.instructions code) :
    detector.find { method with instructions := code } = detector.find method := by
  refine find_congr detector rfl rfl ?_
  exact (map_eq_of_forall₂ exchanged fun _ _ stands => stands.links_testimony).symm

/-- A call with these comment lines. -/
def callNoted (texts : List String) : Instruction :=
  { address := 64, mnemonic := "call", comments := texts.map Comment.ofText }

/-- A method with an optimized virtual call and a call of an inlined callee. -/
def notedPaint : Method := {
  member := ⟨"Canvas", "paint", "()V"⟩
  callSites := [⟨5, .virtual, ⟨"Shape", "area", "()D"⟩⟩]
  instructions := [
    callNoted [";*invokevirtual area", "; - Canvas::paint@5 (line 12)",
      ";   \x7boptimized virtual_call\x7d"],
    callNoted ["; - Cache::get@2 (line 4)", "; - Canvas::paint@7 (line 13)"]] }

/-- The same calls, with names in the lines of bytecode and the scope lines that read like remarks
of a dispatch. -/
def misleadingCode : List Instruction := [
  callNoted [";;* vtable stub", "- Canvas::paint@5 \x7bvirtual_call\x7d",
    ";   \x7boptimized virtual_call\x7d"],
  callNoted ["; - itable/Cache::monomorphic@300", "; - Canvas::paint@7 (line 13)"]]

/-- The misleading lines change nothing. -/
theorem names_of_misleadingCode :
    List.Forall₂ (Instruction.StandsFor notedPaint.member) notedPaint.instructions
        misleadingCode ∧
      ({} : Detector).find { notedPaint with instructions := misleadingCode } =
        ({} : Detector).find notedPaint := by
  have bytecode : Comment.StandsFor notedPaint.member (Comment.ofText ";*invokevirtual area")
      (Comment.ofText ";;* vtable stub") := .bytecode (by decide +kernel) (by decide +kernel)
  have own : Comment.StandsFor notedPaint.member (Comment.ofText "; - Canvas::paint@5 (line 12)")
      (Comment.ofText "- Canvas::paint@5 \x7bvirtual_call\x7d") := by
    have named : Frame.ofLine? (Comment.ofText "; - Canvas::paint@5 (line 12)").text =
        some ⟨"Canvas", "paint", 5, some 12⟩ := by decide +kernel
    have otherNamed : Frame.ofLine? (Comment.ofText "- Canvas::paint@5 \x7bvirtual_call\x7d").text =
        some ⟨"Canvas", "paint", 5, none⟩ := by decide +kernel
    exact .scope named otherNamed (.inr (by decide))
  have callee : Comment.StandsFor notedPaint.member (Comment.ofText "; - Cache::get@2 (line 4)")
      (Comment.ofText "; - itable/Cache::monomorphic@300") := by
    have named : Frame.ofLine? (Comment.ofText "; - Cache::get@2 (line 4)").text =
        some ⟨"Cache", "get", 2, some 4⟩ := by decide +kernel
    have otherNamed : Frame.ofLine? (Comment.ofText "; - itable/Cache::monomorphic@300").text =
        some ⟨"itable/Cache", "monomorphic", 300, none⟩ := by decide +kernel
    exact .scope named otherNamed (.inl (by decide))
  have exchanged : List.Forall₂ (Instruction.StandsFor notedPaint.member)
      notedPaint.instructions misleadingCode :=
    .cons ⟨rfl, .cons bytecode (.cons own (.cons (.same _) .nil))⟩
      (.cons ⟨rfl, .cons callee (.cons (.same _) .nil)⟩ .nil)
  exact ⟨exchanged, names_are_no_evidence {} exchanged⟩

end Detection.Detector

end Devirt
