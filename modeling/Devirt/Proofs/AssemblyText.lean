import Mathlib.Data.List.Forall2
import Mathlib.Data.List.Induction
import Devirt.Proofs.InstructionBody
import Devirt.Proofs.TextLines

/-!
# Texts of assembly

Reading carries the instructions read so far and a label from line to line. What comes of it is
said here of the kinds of all lines at once; which lines a text has is said without its reader. The
lines between two instruction lines belong to both: the last label among them is for the second,
their comment lines are for the first. The first instruction line that cannot be read is the fault,
and it counts for nothing what stands behind it.
-/

namespace Devirt.Assembly

namespace Line

/-- Whether the line is an instruction line. -/
def isInstruction : Line → Bool
  | .instruction _ => true
  | _ => false

/-- The label on a label line, in its brackets. -/
def label? : Line → Option String
  | .label inside => some (String.ofList ('[' :: inside ++ [']']))
  | _ => none

/-- The comment line on a line. -/
def comment? : Line → Option Comment
  | .comment written => some written
  | _ => none

/-- The line is an instruction line that cannot be read. -/
def IsFaulty (kind : Line) : Prop := ∃ line, kind = .instruction line ∧ line.IsFaulty

/-- An instruction line is one in name. -/
theorem isInstruction_iff {kind : Line} :
    kind.isInstruction = true ↔ ∃ line, kind = .instruction line := by
  cases kind <;> simp [isInstruction]

/-- The address of an instruction line is written in digits. -/
theorem Reads.isHexNumeral {cs : List Char} {line : InstructionLine}
    (reads : Line.Reads cs (.instruction line)) : Text.IsHexNumeral line.digits := by
  have fits := reads.1
  cases fits with
  | labelled _ _ _ _ _ _ _ _ _ numeral _ => exact numeral
  | unlabelled _ _ _ _ numeral _ => exact numeral

end Line

/-- The label that waits behind some lines: the last one behind the last instruction line. -/
def waitingLabel (before : List Line) : Option String :=
  (before.reverse.takeWhile (!·.isInstruction)).findSome? Line.label?

/-- The comment lines in front of the next instruction line. -/
def remarks (behind : List Line) : List Comment :=
  (behind.takeWhile (!·.isInstruction)).filterMap Line.comment?

/-- The instructions are what the lines say: one for each instruction line, in order, with the
label that waits in front of it and the comment lines beneath it. -/
def IsReading (kinds : List Line) (instructions : List Instruction) : Prop :=
  instructions.length = kinds.countP Line.isInstruction ∧
    ∀ before line behind, kinds = before ++ Line.instruction line :: behind →
      ∃ instruction, instructions[before.countP Line.isInstruction]? = some instruction ∧
        line.Describes (waitingLabel before) (remarks behind) instruction

/-- The fault is at the first instruction line that cannot be read. -/
def IsFirstFault (lines : List (List Char)) (kinds : List Line) (fault : Fault) : Prop :=
  ∃ before kind behind text, kinds = before ++ kind :: behind ∧
    (∀ earlier ∈ before, ¬ earlier.IsFaulty) ∧ kind.IsFaulty ∧
    lines[before.length]? = some text ∧ fault = ⟨before.length + 1, String.ofList text⟩

/-- An instruction line with its label and the comment lines beneath it. -/
structure Entry where
  line : InstructionLine
  label : Option String
  remarks : List Comment

/-- The instruction lines with what belongs to them, when a label waits at the start. -/
def entries (waiting : Option String) : List Line → List Entry
  | [] => []
  | .instruction line :: behind => ⟨line, waiting, remarks behind⟩ :: entries none behind
  | kind :: behind => entries (kind.label?.or waiting) behind

section

variable {kind : Line} (notInstruction : kind.isInstruction = false)

include notInstruction

/-- A line that is no instruction line is no entry, but it may leave a label behind. -/
theorem entries_cons_of_not_isInstruction (waiting : Option String) (behind : List Line) :
    entries waiting (kind :: behind) = entries (kind.label?.or waiting) behind := by
  cases kind with
  | instruction line => cases notInstruction
  | _ => rfl

/-- A line that is no instruction line may be a comment line. -/
theorem remarks_cons_of_not_isInstruction (behind : List Line) :
    remarks (kind :: behind) = kind.comment?.toList ++ remarks behind := by
  rw [remarks, List.takeWhile_cons_of_pos (by simp [notInstruction]), List.filterMap_cons, remarks]
  cases kind.comment? <;> rfl

end

/-- The instruction with comment lines beneath those it has. -/
def Entry.instruction? (entry : Entry) : Option Instruction :=
  (entry.line.instruction? entry.label).map (entry.remarks.foldl Instruction.addComment)

namespace Draft

variable {draft result : Draft} {number : Nat} {lines : List (List Char)}

/-- The draft with comment lines for its last instruction. -/
def addRemarks (draft : Draft) (comments : List Comment) : Draft :=
  comments.foldl Draft.addComment draft

/-- Without instructions comment lines are dropped. -/
theorem addRemarks_of_nil (empty : draft.instructions = []) (comments : List Comment) :
    draft.addRemarks comments = draft := by
  induction comments with
  | nil => rfl
  | cons comment comments ih =>
    have dropped : draft.addComment comment = draft := by rw [addComment, empty]
    rw [addRemarks, List.foldl_cons, dropped]
    exact ih

/-- Comment lines go to the last instruction. -/
theorem instructions_addRemarks {last : Instruction} {before : List Instruction}
    (shape : draft.instructions = last :: before) (comments : List Comment) :
    (draft.addRemarks comments).instructions =
      comments.foldl Instruction.addComment last :: before := by
  induction comments generalizing draft last with
  | nil => exact shape
  | cons comment comments ih =>
    rw [addRemarks, List.foldl_cons, List.foldl_cons]
    exact ih (by rw [addComment, shape])

/-- Which instructions come of comment lines depends on the instructions only. -/
theorem instructions_addRemarks_congr (same : draft.instructions = result.instructions)
    (comments : List Comment) :
    (draft.addRemarks comments).instructions = (result.addRemarks comments).instructions := by
  cases shape : result.instructions with
  | nil =>
    rw [addRemarks_of_nil shape, addRemarks_of_nil (same.trans shape), same]
  | cons last before =>
    rw [instructions_addRemarks shape, instructions_addRemarks (same.trans shape)]

/-- A line that is no instruction line is always read. It may leave a label behind or a comment
line for the last instruction. -/
theorem addLine_of_not_isInstruction (draft : Draft) (number : Nat) {text : List Char}
    (notInstruction : (Line.ofText text).isInstruction = false) :
    ∃ next, draft.addLine number text = .ok next ∧
      next.label = (Line.ofText text).label?.or draft.label ∧
      ∀ comments, (next.addRemarks comments).instructions =
        (draft.addRemarks ((Line.ofText text).comment?.toList ++ comments)).instructions := by
  cases kind : Line.ofText text with
  | blank => exact ⟨draft, by rw [addLine, kind], rfl, fun _ => rfl⟩
  | other => exact ⟨draft, by rw [addLine, kind], rfl, fun _ => rfl⟩
  | comment written =>
    refine ⟨draft.addComment written, by rw [addLine, kind], ?_, fun _ => rfl⟩
    rw [addComment]
    split <;> rfl
  | label inside =>
    exact ⟨{ draft with label := some (String.ofList ('[' :: inside ++ [']'])) },
      by rw [addLine, kind], rfl, instructions_addRemarks_congr rfl⟩
  | instruction line =>
    rw [kind] at notInstruction
    cases notInstruction

/-- An instruction line is read when the instruction on it is. -/
theorem addLine_of_instruction (draft : Draft) (number : Nat) {text : List Char}
    {line : InstructionLine} (kind : Line.ofText text = .instruction line) :
    draft.addLine number text =
      (line.instruction? draft.label).elim (.error ⟨number, String.ofList text⟩)
        fun instruction => .ok { instructions := instruction :: draft.instructions } := by
  simp only [addLine, kind]
  cases line.instruction? draft.label <;> rfl

/-- Reading lines appends the instructions that they say, and the comment lines in front of the
first of these go to the last instruction that was there. -/
theorem addLines_eq_ok_iff {instructions : List Instruction} :
    (draft.addLines number lines).map (·.instructions.reverse) = .ok instructions ↔
      ∃ read, List.Forall₂ (fun entry instruction => entry.instruction? = some instruction)
          (entries draft.label (lines.map Line.ofText)) read ∧
        instructions =
          (draft.addRemarks (remarks (lines.map Line.ofText))).instructions.reverse ++ read := by
  induction lines generalizing draft number with
  | nil => simp [addLines, entries, remarks, addRemarks, Except.map, eq_comm]
  | cons text rest ih =>
    rw [addLines, List.map_cons]
    cases isInstruction : (Line.ofText text).isInstruction with
    | false =>
      obtain ⟨next, step, label, comments⟩ :=
        addLine_of_not_isInstruction draft number isInstruction
      rw [step, entries_cons_of_not_isInstruction isInstruction,
        remarks_cons_of_not_isInstruction isInstruction, ← label, ← comments]
      exact ih
    | true =>
      obtain ⟨line, kind⟩ := Line.isInstruction_iff.mp isInstruction
      have others : remarks (Line.instruction line :: rest.map Line.ofText) = [] := rfl
      rw [addLine_of_instruction draft number kind, kind, entries, others]
      cases read : line.instruction? draft.label with
      | none =>
        apply Iff.intro
        · intro done
          cases done
        · rintro ⟨_, all, _⟩
          obtain ⟨_, _, first, _⟩ := List.forall₂_cons_left_iff.mp all
          rw [Entry.instruction?, read] at first
          cases first
      | some instruction =>
        have next : (({ instructions := instruction :: draft.instructions } : Draft).addRemarks
            (remarks (rest.map Line.ofText))).instructions =
              (remarks (rest.map Line.ofText)).foldl Instruction.addComment instruction ::
                draft.instructions := instructions_addRemarks rfl _
        refine ih.trans ?_
        rw [next]
        apply Iff.intro
        · rintro ⟨later, all, rfl⟩
          exact ⟨_, .cons (by rw [Entry.instruction?, read, Option.map_some]) all,
            by simp [addRemarks]⟩
        · rintro ⟨_, all, rfl⟩
          obtain ⟨_, later, first, others, rfl⟩ := List.forall₂_cons_left_iff.mp all
          rw [Entry.instruction?, read, Option.map_some, Option.some.injEq] at first
          exact ⟨later, others, by simp [addRemarks, first]⟩

/-- A line is a fault when it is an instruction line that cannot be read. -/
theorem addLine_eq_error_iff {text : List Char} {fault : Fault} :
    draft.addLine number text = .error fault ↔
      (Line.ofText text).IsFaulty ∧ fault = ⟨number, String.ofList text⟩ := by
  cases isInstruction : (Line.ofText text).isInstruction with
  | false =>
    obtain ⟨next, step, _⟩ := addLine_of_not_isInstruction draft number isInstruction
    have fine : ¬ (Line.ofText text).IsFaulty := by
      rintro ⟨line, kind, _⟩
      rw [kind] at isInstruction
      cases isInstruction
    simp [step, fine]
  | true =>
    obtain ⟨line, kind⟩ := Line.isInstruction_iff.mp isInstruction
    have numeral := (Line.reads_iff.mpr kind).isHexNumeral
    have faulty : (Line.ofText text).IsFaulty ↔ line.instruction? draft.label = none := by
      rw [InstructionLine.instruction?_eq_none_iff numeral, Line.IsFaulty, kind]
      simp
    rw [addLine_of_instruction draft number kind, faulty]
    cases line.instruction? draft.label <;> simp [eq_comm]

/-- Reading fails at the first line that cannot be read. -/
theorem addLines_eq_error_iff (draft : Draft) (number : Nat) (lines : List (List Char))
    (fault : Fault) :
    draft.addLines number lines = .error fault ↔
      ∃ before text behind, lines = before ++ text :: behind ∧
        (∀ earlier ∈ before, ¬ (Line.ofText earlier).IsFaulty) ∧ (Line.ofText text).IsFaulty ∧
        fault = ⟨number + before.length, String.ofList text⟩ := by
  induction lines generalizing draft number with
  | nil => simp [addLines]
  | cons text rest ih =>
    rw [addLines]
    cases step : draft.addLine number text with
    | error first =>
      obtain ⟨faulty, rfl⟩ := addLine_eq_error_iff.mp step
      apply Iff.intro
      · intro failed
        cases failed
        exact ⟨[], text, rest, rfl, by simp, faulty, rfl⟩
      · rintro ⟨before, _, behind, whole, fine, _, rfl⟩
        cases before with
        | nil => rw [(List.cons.inj whole).1]; rfl
        | cons earlier before =>
          rw [(List.cons.inj whole).1] at faulty
          exact absurd faulty (fine earlier List.mem_cons_self)
    | ok next =>
      have fine : ¬ (Line.ofText text).IsFaulty := fun faulty => by
        rw [addLine_eq_error_iff.mpr ⟨faulty, rfl⟩] at step
        cases step
      refine (ih next (number + 1)).trans ?_
      apply Iff.intro
      · rintro ⟨before, _, behind, rfl, others, faulty, rfl⟩
        refine ⟨text :: before, _, behind, rfl, List.forall_mem_cons.mpr ⟨fine, others⟩, faulty, ?_⟩
        rw [List.length_cons, Nat.add_right_comm, Nat.add_assoc]
      · rintro ⟨before, _, behind, whole, others, faulty, rfl⟩
        cases before with
        | nil =>
          rw [(List.cons.inj whole).1] at fine
          exact absurd faulty fine
        | cons earlier before =>
          refine ⟨before, _, behind, (List.cons.inj whole).2, (List.forall_mem_cons.mp others).2,
            faulty, ?_⟩
          rw [List.length_cons, Nat.add_right_comm, Nat.add_assoc]

end Draft

section Entries

variable {kinds before behind : List Line} {line : InstructionLine} {waiting : Option String}

/-- There is an entry for each instruction line. -/
theorem length_entries (waiting : Option String) (kinds : List Line) :
    (entries waiting kinds).length = kinds.countP Line.isInstruction := by
  induction kinds generalizing waiting with
  | nil => rfl
  | cons kind kinds ih =>
    cases isInstruction : kind.isInstruction with
    | true =>
      obtain ⟨line, rfl⟩ := Line.isInstruction_iff.mp isInstruction
      rw [entries, List.length_cons, ih, List.countP_cons_of_pos rfl]
    | false =>
      rw [entries_cons_of_not_isInstruction isInstruction, ih,
        List.countP_cons_of_neg (by simp [isInstruction])]

/-- The label that waits behind some lines, when one waits in front of them. -/
def waitingBehind (waiting : Option String) (before : List Line) : Option String :=
  before.foldl (fun waiting kind => if kind.isInstruction then none else kind.label?.or waiting)
    waiting

/-- With no label in front, it is the last one behind the last instruction line. -/
theorem waitingBehind_none (before : List Line) :
    waitingBehind none before = waitingLabel before := by
  induction before using List.reverseRecOn with
  | nil => rfl
  | append_singleton before kind ih =>
    rw [waitingBehind, List.foldl_append, List.foldl_cons, List.foldl_nil, waitingLabel,
      List.reverse_append, List.reverse_singleton, List.singleton_append]
    cases isInstruction : kind.isInstruction with
    | true => simp [isInstruction]
    | false =>
      rw [waitingLabel, waitingBehind] at ih
      cases label : kind.label? <;> simp [isInstruction, label, ih]

/-- Comment lines behind an instruction line are not for one in front of it. -/
theorem remarks_append (before behind : List Line) (line : InstructionLine) :
    remarks (before ++ .instruction line :: behind) = remarks before := by
  have stop : (Line.instruction line :: behind).takeWhile (!·.isInstruction) = [] := rfl
  rw [remarks, remarks, List.takeWhile_append, stop, List.append_nil]
  split_ifs with all
  · rw [(List.takeWhile_prefix _).eq_of_length all]
  · rfl

/-- The entries of lines are those in front of an instruction line, its own and those behind. -/
theorem entries_append (waiting : Option String) (before behind : List Line)
    (line : InstructionLine) :
    entries waiting (before ++ .instruction line :: behind) =
      entries waiting before ++
        ⟨line, waitingBehind waiting before, remarks behind⟩ :: entries none behind := by
  induction before generalizing waiting with
  | nil => rfl
  | cons kind before ih =>
    cases isInstruction : kind.isInstruction with
    | true =>
      obtain ⟨own, rfl⟩ := Line.isInstruction_iff.mp isInstruction
      rw [List.cons_append, entries, entries, ih, remarks_append]
      rfl
    | false =>
      rw [List.cons_append, entries_cons_of_not_isInstruction isInstruction,
        entries_cons_of_not_isInstruction isInstruction, ih, waitingBehind, waitingBehind,
        List.foldl_cons, isInstruction]
      rfl

/-- Every entry is that of an instruction line. -/
theorem exists_split_of_lt {number : Nat} (lt : number < kinds.countP Line.isInstruction) :
    ∃ before line behind, kinds = before ++ .instruction line :: behind ∧
      before.countP Line.isInstruction = number := by
  induction kinds generalizing number with
  | nil => cases lt
  | cons kind kinds ih =>
    cases isInstruction : kind.isInstruction with
    | true =>
      obtain ⟨line, rfl⟩ := Line.isInstruction_iff.mp isInstruction
      cases number with
      | zero => exact ⟨[], line, kinds, rfl, rfl⟩
      | succ number =>
        rw [List.countP_cons_of_pos rfl] at lt
        obtain ⟨before, other, behind, rfl, count⟩ := ih (Nat.lt_of_succ_lt_succ lt)
        exact ⟨.instruction line :: before, other, behind, rfl,
          by rw [List.countP_cons_of_pos rfl, count]⟩
    | false =>
      rw [List.countP_cons_of_neg (by simp [isInstruction])] at lt
      obtain ⟨before, other, behind, rfl, count⟩ := ih lt
      exact ⟨kind :: before, other, behind, rfl,
        by rw [List.countP_cons_of_neg (by simp [isInstruction]), count]⟩

/-- The entry of an instruction line has the label in front of the line and the comment lines
beneath it. -/
theorem getElem?_entries (before behind : List Line) (line : InstructionLine) :
    (entries none (before ++ .instruction line :: behind))[before.countP Line.isInstruction]? =
      some ⟨line, waitingLabel before, remarks behind⟩ := by
  rw [entries_append, waitingBehind_none, ← length_entries none before,
    List.getElem?_append_right (Nat.le_refl _), Nat.sub_self, List.getElem?_cons_zero]

/-- Comment lines beneath an instruction are appended to those it has. -/
theorem foldl_addComment (instruction : Instruction) (comments : List Comment) :
    comments.foldl Instruction.addComment instruction =
      { instruction with comments := instruction.comments ++ comments } := by
  induction comments generalizing instruction with
  | nil => simp
  | cons comment comments ih => simp [ih, Instruction.addComment]

/-- The instruction of an entry is what its line says. -/
theorem entry_instruction?_eq_some_iff (numeral : Text.IsHexNumeral line.digits)
    {label : Option String} {beneath : List Comment} {instruction : Instruction} :
    (Entry.mk line label beneath).instruction? = some instruction ↔
      line.Describes label beneath instruction := by
  rw [Entry.instruction?, Option.map_eq_some_iff]
  simp only [InstructionLine.instruction?_eq_some_iff numeral, foldl_addComment]
  apply Iff.intro
  · rintro ⟨base, ⟨address, labelled, code, inline, modifier, mnemonic, operandText, cut, reads,
      sameModifier, sameMnemonic, sameOperands, sameComments⟩, rfl⟩
    exact ⟨address, labelled, code, inline, modifier, mnemonic, operandText, cut, reads,
      sameModifier, sameMnemonic, sameOperands, by simp [sameComments]⟩
  · rintro ⟨address, labelled, code, inline, modifier, mnemonic, operandText, cut, reads,
      sameModifier, sameMnemonic, sameOperands, sameComments⟩
    refine ⟨{ instruction with comments := inline }, ⟨address, labelled, code, inline, modifier,
      mnemonic, operandText, cut, reads, sameModifier, sameMnemonic, sameOperands, by simp⟩, ?_⟩
    rw [← sameComments]

/-- The instructions of all entries are what the lines say. -/
theorem forall₂_entries_iff
    (numerals : ∀ line, .instruction line ∈ kinds → Text.IsHexNumeral line.digits)
    {instructions : List Instruction} :
    List.Forall₂ (fun entry instruction => entry.instruction? = some instruction)
        (entries none kinds) instructions ↔ IsReading kinds instructions := by
  have described {before behind : List Line} {line : InstructionLine}
      (split : kinds = before ++ .instruction line :: behind) (instruction : Instruction) :
      (Entry.mk line (waitingLabel before) (remarks behind)).instruction? = some instruction ↔
        line.Describes (waitingLabel before) (remarks behind) instruction :=
    entry_instruction?_eq_some_iff (numerals line (by simp [split]))
  rw [List.forall₂_iff_get]
  apply Iff.intro
  · rintro ⟨sameLength, all⟩
    refine ⟨sameLength ▸ length_entries none kinds, fun before line behind split => ?_⟩
    have entry := getElem?_entries before behind line
    rw [← split] at entry
    obtain ⟨inEntries, found⟩ := List.getElem?_eq_some_iff.mp entry
    have instruction := all _ inEntries (sameLength ▸ inEntries)
    rw [List.get_eq_getElem, found, described split] at instruction
    exact ⟨_, List.getElem?_eq_getElem _, instruction⟩
  · rintro ⟨count, each⟩
    refine ⟨(length_entries none kinds).trans count.symm, fun number inEntries inInstructions => ?_⟩
    obtain ⟨before, line, behind, split, rfl⟩ :=
      exists_split_of_lt (length_entries none kinds ▸ inEntries)
    obtain ⟨instruction, stands, describes⟩ := each before line behind split
    have entry := getElem?_entries before behind line
    rw [← split] at entry
    rw [List.getElem?_eq_getElem inEntries] at entry
    rw [List.getElem?_eq_getElem inInstructions] at stands
    rw [List.get_eq_getElem, List.get_eq_getElem, Option.some.inj entry, Option.some.inj stands,
      described split]
    exact describes

end Entries

/-- Lines that say what instructions are can be read. -/
theorem IsReading.not_isFaulty {kinds : List Line} {instructions : List Instruction}
    (numerals : ∀ line, .instruction line ∈ kinds → Text.IsHexNumeral line.digits)
    (reading : IsReading kinds instructions) : ∀ kind ∈ kinds, ¬ kind.IsFaulty := by
  rintro _ mem ⟨line, rfl, faulty⟩
  obtain ⟨before, behind, split⟩ := List.append_of_mem mem
  obtain ⟨instruction, _, describes⟩ := reading.2 before line behind split
  rw [← entry_instruction?_eq_some_iff (numerals line mem), Entry.instruction?,
    (InstructionLine.instruction?_eq_none_iff (numerals line mem)).mpr faulty] at describes
  cases describes

/-- Lines read as what they are taken for, one by one. -/
theorem forall₂_reads_iff {lines : List (List Char)} {kinds : List Line} :
    List.Forall₂ Line.Reads lines kinds ↔ kinds = lines.map Line.ofText := by
  have same : Line.Reads = fun cs line => Line.ofText cs = line :=
    funext fun _ => funext fun _ => propext Line.reads_iff
  rw [same, ← List.forall₂_map_left_iff (R := Eq), List.forall₂_eq_eq_eq, eq_comm]

/-- The first fault among the kinds is at the first line that cannot be read. -/
theorem isFirstFault_iff {lines : List (List Char)} {fault : Fault} :
    IsFirstFault lines (lines.map Line.ofText) fault ↔
      ∃ before text behind, lines = before ++ text :: behind ∧
        (∀ earlier ∈ before, ¬ (Line.ofText earlier).IsFaulty) ∧ (Line.ofText text).IsFaulty ∧
        fault = ⟨1 + before.length, String.ofList text⟩ := by
  apply Iff.intro
  · rintro ⟨_, _, _, text, whole, fine, faulty, stands, rfl⟩
    obtain ⟨before, _, rfl, rfl, split⟩ := List.map_eq_append_iff.mp whole
    obtain ⟨own, behind, rfl, rfl, rfl⟩ := List.map_eq_cons_iff.mp split
    obtain rfl : own = text := by simpa using stands
    exact ⟨before, own, behind, rfl, fun earlier mem => fine _ (List.mem_map_of_mem mem), faulty,
      by rw [List.length_map, Nat.add_comm]⟩
  · rintro ⟨before, text, behind, rfl, fine, faulty, rfl⟩
    exact ⟨before.map Line.ofText, Line.ofText text, behind.map Line.ofText, text, by simp,
      List.forall_mem_map.mpr fine, faulty, by simp, by rw [List.length_map, Nat.add_comm]⟩

/-- The instructions of a text are those of its entries. -/
theorem parse_eq_ok_iff {text : String} {instructions : List Instruction} :
    parse text = .ok instructions ↔
      List.Forall₂ (fun entry instruction => entry.instruction? = some instruction)
        (entries none ((Text.lines text.toList).map Line.ofText)) instructions := by
  rw [parse, Draft.addLines_eq_ok_iff, Draft.addRemarks_of_nil rfl]
  simp

/-- A text has one list of lines, and these read as one list of kinds. If an instruction line among
them cannot be read, the first such line is the fault. Otherwise the instructions are what the lines
say. -/
theorem parse_reads_lines (text : String) :
    ∃ lines kinds, (∀ others, Text.HasLines text.toList others ↔ others = lines) ∧
      (∀ others, List.Forall₂ Line.Reads lines others ↔ others = kinds) ∧
      (∀ fault, parse text = .error fault ↔ IsFirstFault lines kinds fault) ∧
      (∀ instructions, parse text = .ok instructions ↔
        (∀ kind ∈ kinds, ¬ kind.IsFaulty) ∧ IsReading kinds instructions) := by
  have numerals : ∀ line, .instruction line ∈ (Text.lines text.toList).map Line.ofText →
      Text.IsHexNumeral line.digits := by
    intro line mem
    obtain ⟨cs, _, kind⟩ := List.mem_map.mp mem
    exact (Line.reads_iff.mpr kind).isHexNumeral
  refine ⟨Text.lines text.toList, (Text.lines text.toList).map Line.ofText,
    fun others => Text.hasLines_iff, fun others => forall₂_reads_iff, fun fault => ?_,
    fun instructions => ?_⟩
  · have first := Draft.addLines_eq_error_iff {} 1 (Text.lines text.toList) fault
    rw [isFirstFault_iff, ← first, parse]
    cases Draft.addLines {} 1 (Text.lines text.toList) <;> simp [Except.map]
  · rw [parse_eq_ok_iff, forall₂_entries_iff numerals]
    exact (and_iff_right_of_imp fun reading => reading.not_isFaulty numerals).symm

end Devirt.Assembly
