import Devirt.Proofs.InstructionRow
import Devirt.Snapshot.Load

/-!
# Listings read back

A listing of legible instructions is assembly text that says these instructions and nothing else.
So a method that is handed over with its instructions one by one and the same method with their
listing as assembly text are loaded as the same method.
-/

namespace Devirt

namespace Assembly

/-- Comment lines are no entries. -/
theorem entries_comments (comments : List Comment) (waiting : Option String) (rest : List Line) :
    entries waiting (comments.map .comment ++ rest) = entries waiting rest := by
  induction comments with
  | nil => rfl
  | cons comment comments ih => exact ih

/-- Comment lines are those in front of the next instruction line. -/
theorem remarks_comments (comments : List Comment) (rest : List Line) :
    remarks (comments.map .comment ++ rest) = comments ++ remarks rest := by
  induction comments with
  | nil => rfl
  | cons comment comments ih =>
    rw [List.map_cons, List.cons_append, remarks_cons_of_not_isInstruction rfl, ih]
    rfl

/-- Blocks of an instruction line and comment lines are one entry each. -/
theorem entries_blocks {α : Type} (line : α → InstructionLine) (comments : α → List Comment)
    (xs : List α) :
    entries none (xs.flatMap fun x => .instruction (line x) :: (comments x).map .comment) =
      xs.map fun x => ⟨line x, none, comments x⟩ := by
  induction xs with
  | nil => rfl
  | cons x xs ih =>
    have behind : remarks (xs.flatMap fun x =>
        .instruction (line x) :: (comments x).map .comment) = [] := by
      cases xs <;> rfl
    rw [List.flatMap_cons, List.cons_append, entries, remarks_comments, behind, entries_comments,
      ih, List.append_nil, List.map_cons]

end Assembly

namespace Listing

variable {instructions : List Instruction}

/-- The lines of a listing are the rows of its instructions. -/
theorem lines_text (legible : ∀ i ∈ instructions, i.IsLegible) :
    Text.lines (text instructions).toList =
      instructions.flatMap (·.filledRows (width instructions)) := by
  cases instructions with
  | nil => rfl
  | cons first rest =>
    have pieces : Text.pieces (text (first :: rest)).toList =
        (first :: rest).flatMap (·.filledRows (width (first :: rest))) := by
      rw [(pieces_text_iff (List.cons_ne_nil _ _) fun i mem => (legible i mem).isFeedFree).mpr
        fun i mem => (legible i mem).keepsRows]
      exact List.flatMap_congr fun i mem => (legible i mem).printedRows_eq _
    have visible : ∀ row ∈ Text.pieces (text (first :: rest)).toList,
        row ≠ [] ∧ ∀ c ∈ row.getLast?, Text.isBlank c = false := by
      rw [pieces]
      intro row mem
      obtain ⟨i, listed, inRows⟩ := List.mem_flatMap.mp mem
      exact (legible i listed).visible_filledRows _ row inRows
    rw [← pieces]
    refine Text.lines_eq_pieces (fun row mem returned => ?_) fun last mem => ?_
    · exact absurd ((visible row mem).2 '\r' returned) (by decide)
    · exact (visible last (List.mem_of_getLast? mem)).1

/-- A listing of legible instructions is read back. -/
theorem parse_text_of_isLegible (legible : ∀ i ∈ instructions, i.IsLegible) :
    Assembly.parse (text instructions) = .ok instructions := by
  have numeral (i : Instruction) : Text.IsHexNumeral i.line.digits :=
    Text.isHexNumeral_hexPadded 16 i.address.toNat
  have kinds : (instructions.flatMap (·.filledRows (width instructions))).map Assembly.Line.ofText =
      instructions.flatMap fun i =>
        .instruction i.line :: i.comments.tail.map .comment := by
    rw [List.map_flatMap]
    exact List.flatMap_congr fun i mem =>
      (legible i mem).map_ofText_filledRows (length_lt_width mem)
  rw [Assembly.parse_eq_ok_iff, lines_text legible, kinds,
    Assembly.entries_blocks Instruction.line fun i => i.comments.tail,
    List.forall₂_map_left_iff, List.forall₂_same]
  intro i mem
  exact (Assembly.entry_instruction?_eq_some_iff (numeral i)).mpr (legible i mem).describes

end Listing

namespace Snapshot

/-- The instruction as it is handed over. -/
def InstructionEntry.ofInstruction (instruction : Instruction) : InstructionEntry where
  label := instruction.label
  address := instruction.address
  modifier := instruction.modifier
  mnemonic := instruction.mnemonic
  operands := instruction.operands
  comments := instruction.comments.map (·.text)

variable {instructions : List Instruction}

/-- A legible instruction that is handed over is loaded as it is. -/
theorem InstructionEntry.load_ofInstruction {instruction : Instruction}
    (legible : instruction.IsLegible) : (ofInstruction instruction).load = .ok instruction := by
  have named : Text.trimmed (ofInstruction instruction).mnemonic ≠ "" := by
    simpa [ofInstruction, Text.trimmed, Text.trim_eq_self legible.mnemonic.hasBareEnds] using
      legible.mnemonic.1
  have comments : (instruction.comments.map (·.text)).map Comment.ofText =
      instruction.comments := by
    simp [Function.comp_def, Comment.ofText_text]
  rw [load, if_neg named]
  simp only [ofInstruction, comments]

/-- Legible instructions that are handed over one by one are loaded as they are. -/
theorem mapM_load_ofInstruction (legible : ∀ i ∈ instructions, i.IsLegible) :
    (instructions.map InstructionEntry.ofInstruction).mapM InstructionEntry.load =
      .ok instructions := by
  induction instructions with
  | nil => rfl
  | cons first rest ih =>
    obtain ⟨own, others⟩ := List.forall_mem_cons.mp legible
    rw [List.map_cons, List.mapM_cons, InstructionEntry.load_ofInstruction own, ih others]
    rfl

/-- The listing of legible instructions says them and nothing else, and a method is loaded as the
same method from its instructions and from their listing. -/
theorem load_of_listing (legible : ∀ i ∈ instructions, i.IsLegible) :
    Assembly.parse (Listing.text instructions) = .ok instructions ∧
      ∀ member callSites,
        MethodEntry.load
            ⟨member, callSites, instructions.map InstructionEntry.ofInstruction, none⟩ =
          .ok ⟨member, callSites, instructions⟩ ∧
        MethodEntry.load ⟨member, callSites, [], some (Listing.text instructions)⟩ =
          .ok ⟨member, callSites, instructions⟩ := by
  have read := Listing.parse_text_of_isLegible legible
  refine ⟨read, fun member callSites => ⟨?_, ?_⟩⟩
  · rw [MethodEntry.load, mapM_load_ofInstruction legible]
    simp [loadAssembly, bind, Except.bind, pure, Except.pure]
  · rw [MethodEntry.load, loadAssembly, read]
    rfl

/-- Instructions with and without a label, with brackets in an operand, and with several comment
lines. -/
def addedAndJumped : List Instruction :=
  [{ label := some "[Entry]"
     address := 0x7f3c1d0a4e28
     modifier := some "LOCK"
     mnemonic := "xadd"
     operands := ["%rax", "-0x8(%rsp,%rax,8)"]
     comments :=
      [";*invokevirtual area", ";   \x7boptimized virtual_call\x7d"].map Comment.ofText },
   { address := 0x7f3c1d0a4e2c
     mnemonic := "jmp"
     operands := ["0x00007f3c1d0a5000"] }]

/-- They are loaded from their listing. -/
theorem load_of_addedAndJumped :
    (∀ i ∈ addedAndJumped, i.IsLegible) ∧
      Assembly.parse (Listing.text addedAndJumped) = .ok addedAndJumped ∧
      MethodEntry.load ⟨⟨"org.example.Canvas", "paint", "()V"⟩, [], [],
          some (Listing.text addedAndJumped)⟩ =
        .ok ⟨⟨"org.example.Canvas", "paint", "()V"⟩, [], addedAndJumped⟩ := by
  have legible : ∀ i ∈ addedAndJumped, i.IsLegible := by decide +kernel
  obtain ⟨read, loaded⟩ := load_of_listing legible
  exact ⟨legible, read, (loaded _ []).2⟩

end Snapshot

end Devirt
