import Devirt.Proofs.AssemblyText
import Devirt.Proofs.ListingColumns
import Devirt.Proofs.OperandList

/-!
# Rows of an instruction read back

An instruction that assembly text can say is written on rows that are read back as the instruction:
the first row as an instruction line, the others as comment lines. Each field must keep to what the
reading of its place allows, and no more is asked of it. A mnemonic must not be an address, or the
address in front of it would be taken for a label.
-/

namespace Devirt

namespace Text

instance : DecidablePred IsWordText := fun cs =>
  inferInstanceAs (Decidable (cs ≠ [] ∧ ∀ c ∈ cs, isBlank c = false))

/-- The filled form of a number is a numeral. -/
theorem isHexNumeral_hexPadded (width n : Nat) : IsHexNumeral (hexPadded width n) :=
  ⟨hexPadded_ne_nil width n, fun _ mem => isHexDigit_iff.mp (isHexDigit_of_mem_hexPadded mem)⟩

end Text

namespace Assembly

/-- A text starts with an address and its colon. -/
def StartsWithAddress (cs : List Char) : Prop :=
  ∃ digits body, Text.IsHexNumeral digits ∧ cs = addressText digits body

/-- A text starts with an address when one is read. -/
theorem startsWithAddress_iff {cs : List Char} :
    StartsWithAddress cs ↔ (readAddress? cs).isSome = true := by
  rw [Option.isSome_iff_exists]
  apply Iff.intro
  · rintro ⟨digits, body, starts⟩
    exact ⟨(digits, body), readAddress?_eq_some_iff.mpr starts⟩
  · rintro ⟨⟨digits, body⟩, read⟩
    exact ⟨digits, body, readAddress?_eq_some_iff.mp read⟩

instance : DecidablePred StartsWithAddress := fun _ => decidable_of_iff' _ startsWithAddress_iff

/-- An address with its colon is a word. -/
theorem isWordText_address {digits : List Char} (numeral : Text.IsHexNumeral digits) :
    Text.IsWordText ('0' :: 'x' :: (digits ++ [':'])) := by
  refine ⟨List.cons_ne_nil _ _, ?_⟩
  simp only [List.mem_cons, List.mem_append, List.not_mem_nil, or_false]
  rintro c (rfl | rfl | inDigits | rfl)
  · decide
  · decide
  · exact Text.isBlank_of_isHexDigit (Text.isHexDigit_iff.mpr (numeral.2 c inDigits))
  · decide

/-- The word of an address is in front of what stands behind its colon. -/
theorem addressText_eq_append (digits body : List Char) :
    addressText digits body = ('0' :: 'x' :: (digits ++ [':'])) ++ body := by
  simp [addressText]

/-- A word that is no address is none in front of a blank either. -/
theorem not_startsWithAddress_append {cs tail : List Char} (apart : ¬ StartsWithAddress cs)
    (blank : ∀ c ∈ tail.head?, Text.isBlank c = true) : ¬ StartsWithAddress (cs ++ tail) := by
  rintro ⟨digits, body, numeral, whole⟩
  rw [addressText_eq_append] at whole
  rcases List.append_eq_append_iff.mp whole with ⟨back, front, rfl⟩ | ⟨back, rfl, _⟩
  · cases back with
    | nil => exact apart ⟨digits, [], numeral, by simpa [addressText] using front.symm⟩
    | cons c back =>
      have visible := (isWordText_address numeral).2 c (by simp [front])
      rw [blank c rfl] at visible
      cases visible
  · exact apart ⟨digits, back, numeral, by simp [addressText]⟩

/-- An address is no label of what stands behind it, unless that is an address too. -/
theorem readLabelled?_addressText {digits rest : List Char} (numeral : Text.IsHexNumeral digits)
    (visible : ∀ c ∈ rest.head?, Text.isBlank c = false) (apart : ¬ StartsWithAddress rest) :
    readLabelled? (addressText digits (' ' :: rest)) = none := by
  have all : ∀ c ∈ '0' :: 'x' :: (digits ++ [':']), (!Text.isBlank c) = true := by
    simpa using (isWordText_address numeral).2
  have stop : ∀ c ∈ (' ' :: rest).head?, (!Text.isBlank c) = false := by simp; decide
  have start : Text.trimStart (' ' :: rest) = rest :=
    Text.trimStart_append_of_visible (Text.isBlankText_spaces 1) visible
  have unread : readAddress? rest = none := by
    rw [startsWithAddress_iff] at apart
    simpa using apart
  rw [addressText_eq_append, readLabelled?, Text.takeWhile_append_of_stop all stop,
    Text.dropWhile_append_of_stop all stop, start, unread]
  simp

/-- A word that closes its bracket is no label line with an address behind it. -/
theorem readLabel?_append {word between digits body : List Char} (isWord : Text.IsWordText word)
    (closed : word.head? = some '[' → ']' ∈ word) :
    readLabel? (word ++ (between ++ addressText digits body)) = none := by
  by_contra read
  obtain ⟨inside, read⟩ := Option.ne_none_iff_exists'.mp read
  obtain ⟨behind, _, absent, blank, starts⟩ := readLabel?_eq_some_iff.mp read
  obtain ⟨c, rest, rfl⟩ := List.exists_cons_of_ne_nil isWord.1
  have visible : Text.isBlank c = false := isWord.2 c List.mem_cons_self
  rw [List.cons_append, Text.trimStart_cons_of_not_blank visible] at starts
  obtain ⟨rfl, others⟩ := List.cons.inj starts
  have mem : ']' ∈ rest := by simpa using closed rfl
  obtain ⟨front, back, rfl, first⟩ := List.eq_append_cons_of_mem mem
  rw [List.append_assoc, List.cons_append] at others
  have cut := congrArg (List.dropWhile (· ≠ ']')) others
  rw [Text.dropWhile_ne_append first, Text.dropWhile_ne_append absent] at cut
  have zero : '0' ∈ behind := (List.cons.inj cut).2 ▸ by simp [addressText]
  exact absurd (blank '0' zero) (by decide)

/-- A modifier is a word without a semicolon, and it does not start as an address does. -/
theorem isWordText_of_isModifier {word : List Char} (modifies : isModifier word = true) :
    Text.IsWordText word ∧ ';' ∉ word ∧ ¬ StartsWithAddress word := by
  have each : ∀ text ∈ modifiers, Text.IsWordText text.toList ∧ ';' ∉ text.toList ∧
      text.toList.head? ≠ some '0' := by
    decide +kernel
  rw [isModifier, List.contains_iff_mem] at modifies
  obtain ⟨⟨notNil, visible⟩, noSemicolon, noZero⟩ := each _ modifies
  rw [String.toList_ofList] at notNil visible noSemicolon noZero
  refine ⟨⟨by simpa using notNil, fun c mem => ?_⟩, fun mem => ?_, ?_⟩
  · by_contra blank
    have same := Text.of_isBlank (P := fun c => c.toLower = c) (by decide) (by simpa using blank)
    have shown := visible c.toLower (List.mem_map_of_mem mem)
    rw [same] at shown
    exact blank shown
  · exact noSemicolon (List.mem_map.mpr ⟨';', mem, by decide⟩)
  · rintro ⟨digits, body, _, rfl⟩
    exact noZero (by simp [addressText])

end Assembly

open Assembly

/-- A word that is read as a label. It must not start as a comment line does, and if it starts as
a label line does, it must close the bracket. -/
structure IsLabelText (cs : List Char) : Prop where
  word : Text.IsWordText cs
  noComment : cs.head? ≠ some ';'
  closed : cs.head? = some '[' → ']' ∈ cs

instance : DecidablePred IsLabelText := fun cs =>
  decidable_of_iff (Text.IsWordText cs ∧ cs.head? ≠ some ';' ∧ (cs.head? = some '[' → ']' ∈ cs))
    ⟨fun ⟨word, noComment, closed⟩ => ⟨word, noComment, closed⟩,
      fun label => ⟨label.word, label.noComment, label.closed⟩⟩

namespace Instruction

/-- Each field of the instruction keeps to what is read at its place in a row. -/
structure IsLegible (instruction : Instruction) : Prop where
  label : ∀ label ∈ instruction.label, IsLabelText label.toList
  modifier : ∀ modifier ∈ instruction.modifier, isModifier modifier.toList = true
  mnemonic : Text.IsWordText instruction.mnemonic.toList
  mnemonicPlain : ';' ∉ instruction.mnemonic.toList
  mnemonicApart : ¬ StartsWithAddress instruction.mnemonic.toList
  mnemonicAlone : isModifier instruction.mnemonic.toList = true →
    instruction.modifier ≠ none ∨ instruction.operands = []
  operands : ∀ operand ∈ instruction.operands, IsOperandText operand.toList ∧
    ';' ∉ operand.toList ∧ '\n' ∉ operand.toList
  comments : ∀ comment ∈ instruction.comments, comment.text.toList.head? = some ';' ∧
    '\n' ∉ comment.text.toList

instance : DecidablePred IsLegible := fun instruction =>
  decidable_of_iff
    ((∀ label ∈ instruction.label, IsLabelText label.toList) ∧
      (∀ modifier ∈ instruction.modifier, isModifier modifier.toList = true) ∧
      Text.IsWordText instruction.mnemonic.toList ∧ ';' ∉ instruction.mnemonic.toList ∧
      ¬ StartsWithAddress instruction.mnemonic.toList ∧
      (isModifier instruction.mnemonic.toList = true →
        instruction.modifier ≠ none ∨ instruction.operands = []) ∧
      (∀ operand ∈ instruction.operands, IsOperandText operand.toList ∧ ';' ∉ operand.toList ∧
        '\n' ∉ operand.toList) ∧
      ∀ comment ∈ instruction.comments, comment.text.toList.head? = some ';' ∧
        '\n' ∉ comment.text.toList)
    ⟨fun ⟨label, modifier, mnemonic, plain, apart, alone, operands, comments⟩ =>
        ⟨label, modifier, mnemonic, plain, apart, alone, operands, comments⟩,
      fun legible => ⟨legible.label, legible.modifier, legible.mnemonic, legible.mnemonicPlain,
        legible.mnemonicApart, legible.mnemonicAlone, legible.operands, legible.comments⟩⟩

variable {instruction : Instruction} {width : Nat}

/-- What stands in front of the address. -/
def labelColumn (width : Nat) (instruction : Instruction) : List Char :=
  (Text.alignLeft width (instruction.label.getD "")).toList

/-- The comment line in the first row, with the gap in front of it. -/
def inlineText (instruction : Instruction) : List Char :=
  match instruction.comments with
  | [] => []
  | first :: _ => commentGap.toList ++ first.text.toList

/-- What stands behind the colon of the first row. -/
def bodyText (instruction : Instruction) : List Char :=
  ' ' :: (instruction.operationText ++ instruction.inlineText)

/-- The first row as an instruction line. -/
def line (instruction : Instruction) : InstructionLine :=
  ⟨instruction.label.map String.toList, Text.hexPadded 16 instruction.address.toNat,
    instruction.bodyText⟩

/-- The first row is the label column, the address and what stands behind it. Each other comment
line stands on a row beneath. -/
theorem filledRows_eq (width : Nat) (instruction : Instruction) :
    instruction.filledRows width =
      (instruction.labelColumn width ++
        addressText (Text.hexPadded 16 instruction.address.toNat) instruction.bodyText) ::
      instruction.comments.tail.map fun comment =>
        (instruction.indent width).toList ++ comment.text.toList := by
  cases comments : instruction.comments with
  | nil =>
    simp [filledRows_of_nil comments, toList_head, labelColumn, addressText, bodyText, inlineText,
      comments]
  | cons first rest =>
    simp [filledRows_of_cons comments, toList_head, labelColumn, addressText, bodyText, inlineText,
      comments]

/-- The operands with the space in front of them. -/
theorem toList_operandText (instruction : Instruction) :
    instruction.operandText.toList =
      if instruction.operands = [] then []
      else ' ' :: joinOperands (instruction.operands.map String.toList) := by
  rw [operandText, joinOperands]
  split <;> simp

/-- Modifier, mnemonic and operands, piece by piece. -/
theorem operationText_eq (instruction : Instruction) :
    instruction.operationText =
      (instruction.modifier.elim [] fun modifier => modifier.toList ++ [' ']) ++
        (instruction.mnemonic.toList ++ instruction.operandText.toList) := by
  rw [operationText, modifierText]
  cases instruction.modifier <;> simp

/-- What stands behind the mnemonic starts with a blank. -/
theorem isBlank_behind_mnemonic :
    ∀ c ∈ (instruction.operandText.toList ++ instruction.inlineText).head?,
      Text.isBlank c = true := by
  rw [toList_operandText, inlineText]
  split
  · cases instruction.comments with
    | nil => simp
    | cons first rest => simp [commentGap]; decide
  · simp; decide

/-- A row with a label is read as an instruction line. -/
theorem reads_of_labelled {word between digits : List Char} (label : IsLabelText word)
    (notNil : between ≠ []) (blank : Text.IsBlankText between) (numeral : Text.IsHexNumeral digits)
    (body : List Char) :
    Line.Reads (word ++ (between ++ addressText digits body))
      (.instruction ⟨some word, digits, body⟩) := by
  have first : (Text.trim (word ++ (between ++ addressText digits body))).head? = word.head? := by
    rw [Text.head?_trim, Text.trimStart_eq_self (label.word.visible_append _),
      List.head?_append_of_ne_nil _ label.word.1]
  refine ⟨.labelled [] word between digits body Text.isBlankText_nil label.word notNil blank
    numeral rfl, fun rival fits => ?_⟩
  refine Line.rank_le_of_fits fits (fun empty => ?_) (fun semicolon => ?_) (fun read => ?_)
    (fun _ => Nat.le_refl _) (by simp [Line.rank]) (by simp [Line.rank])
  · rw [empty, List.head?_nil] at first
    exact absurd (List.head?_eq_none_iff.mp first.symm) label.word.1
  · rw [first] at semicolon
    exact absurd semicolon label.noComment
  · exact absurd (readLabel?_append label.word label.closed) read

/-- A comment line on a row of its own is read as that comment line. -/
theorem reads_comment {front : List Char} (blank : Text.IsBlankText front) {comment : Comment}
    (starts : comment.text.toList.head? = some ';') :
    Line.Reads (front ++ comment.text.toList) (.comment comment) := by
  have trimmed : Text.trim (front ++ comment.text.toList) = comment.text.toList := by
    simpa using Text.trim_fill blank Text.isBlankText_nil comment.hasBareEnds
  have same : comment = Comment.ofText (String.ofList (front ++ comment.text.toList)) := by
    apply Comment.ext_text
    simp [Comment.ofText, Text.trimmed, trimmed]
  refine ⟨Line.fits_comment_iff.mpr ⟨by rw [trimmed, starts], same⟩, fun rival fits => ?_⟩
  refine Line.rank_le_of_fits fits (fun empty => ?_) (fun _ => Nat.le_refl _) (by simp [Line.rank])
    (by simp [Line.rank]) (by simp [Line.rank]) (by simp [Line.rank])
  rw [trimmed] at empty
  rw [empty] at starts
  cases starts

namespace IsLegible

variable (legible : instruction.IsLegible)

include legible

/-- The operands are read back. -/
theorem isOperandText : ∀ text ∈ instruction.operands.map String.toList, IsOperandText text :=
  List.forall_mem_map.mpr fun operand mem => (legible.operands operand mem).1

/-- No field holds a line feed. -/
theorem isFeedFree : instruction.IsFeedFree where
  label label mem feed := absurd ((legible.label label mem).word.2 _ feed) (by decide)
  modifier modifier mem feed :=
    absurd ((isWordText_of_isModifier (legible.modifier modifier mem)).1.2 _ feed) (by decide)
  mnemonic feed := absurd (legible.mnemonic.2 _ feed) (by decide)
  operands operand mem := (legible.operands operand mem).2.2
  comments comment mem := (legible.comments comment mem).2

/-- All comment lines are visible. -/
theorem toList_comment_ne_nil : ∀ comment ∈ instruction.comments, comment.text.toList ≠ [] := by
  intro comment mem empty
  have starts := (legible.comments comment mem).1
  rw [empty] at starts
  cases starts

/-- So whole and row by row it has the same rows. -/
theorem keepsRows : instruction.KeepsRows :=
  .inr fun comment mem =>
    mt String.toList_eq_nil_iff.mpr (legible.toList_comment_ne_nil comment mem)

/-- What stands behind the address is a word that is no address, and perhaps more behind a blank. -/
theorem exists_word_append :
    ∃ word tail, instruction.operationText ++ instruction.inlineText = word ++ tail ∧
      Text.IsWordText word ∧ ¬ StartsWithAddress word ∧
      ∀ c ∈ tail.head?, Text.isBlank c = true := by
  rw [operationText_eq]
  cases found : instruction.modifier with
  | none =>
    exact ⟨instruction.mnemonic.toList, instruction.operandText.toList ++ instruction.inlineText,
      by simp, legible.mnemonic, legible.mnemonicApart, isBlank_behind_mnemonic⟩
  | some modifier =>
    obtain ⟨isWord, _, apart⟩ := isWordText_of_isModifier (legible.modifier modifier found)
    exact ⟨modifier.toList, ' ' :: (instruction.mnemonic.toList ++
      (instruction.operandText.toList ++ instruction.inlineText)), by simp, isWord, apart,
      by simp; decide⟩

/-- A row without a label is read as an instruction line. -/
theorem reads_of_unlabelled {front digits : List Char} (blank : Text.IsBlankText front)
    (numeral : Text.IsHexNumeral digits) :
    Line.Reads (front ++ addressText digits instruction.bodyText)
      (.instruction ⟨none, digits, instruction.bodyText⟩) := by
  have start : Text.trimStart (front ++ addressText digits instruction.bodyText) =
      addressText digits instruction.bodyText :=
    Text.trimStart_append_of_visible blank (visible_addressText _ _)
  have first : (Text.trim (front ++ addressText digits instruction.bodyText)).head? = some '0' := by
    rw [Text.head?_trim, start]
    rfl
  obtain ⟨word, tail, whole, isWord, apart, blankTail⟩ := legible.exists_word_append
  have unlabelled : readLabelled? (addressText digits instruction.bodyText) = none := by
    rw [bodyText, whole]
    exact readLabelled?_addressText numeral (isWord.visible_append tail)
      (not_startsWithAddress_append apart blankTail)
  refine ⟨.unlabelled front digits _ blank numeral rfl, fun rival fits => ?_⟩
  refine Line.rank_le_of_fits fits (fun empty => ?_) (fun semicolon => ?_) (fun label => ?_)
    (fun labelled => ?_) (fun _ => Nat.le_refl _) (by simp [Line.rank])
  · rw [empty] at first
    cases first
  · rw [first] at semicolon
    cases semicolon
  · rw [readLabel?, start] at label
    exact absurd rfl label
  · rw [start] at labelled
    exact absurd unlabelled labelled

/-- Mnemonic and operands end with no blank. -/
theorem hasBareEnds_mnemonic_operands :
    Text.HasBareEnds (instruction.mnemonic.toList ++ instruction.operandText.toList) := by
  refine ⟨legible.mnemonic.visible_append _, ?_⟩
  rw [toList_operandText]
  split_ifs with empty
  · rw [List.append_nil]
    exact legible.mnemonic.hasBareEnds.2
  · have notNil : joinOperands (instruction.operands.map String.toList) ≠ [] := by
      rw [ne_eq, joinOperands_eq_nil_iff legible.isOperandText]
      simpa using empty
    rw [List.getLast?_append_of_ne_nil _ (List.cons_ne_nil _ _),
      List.getLast?_cons_of_ne_nil notNil]
    exact (hasBareEnds_joinOperands legible.isOperandText).2

/-- No blank stands at the end of the first row. -/
theorem visible_bodyText : ∀ c ∈ instruction.bodyText.getLast?, Text.isBlank c = false := by
  have notNil : instruction.mnemonic.toList ++ instruction.operandText.toList ≠ [] := by
    simp [legible.mnemonic.1]
  rw [bodyText, inlineText]
  cases comments : instruction.comments with
  | nil =>
    rw [List.append_nil, operationText_eq, ← List.cons_append,
      List.getLast?_append_of_ne_nil _ notNil]
    exact legible.hasBareEnds_mnemonic_operands.2
  | cons first rest =>
    have visible := legible.toList_comment_ne_nil first (by simp [comments])
    rw [← List.append_assoc, ← List.cons_append, List.getLast?_append_of_ne_nil _ visible]
    exact first.hasBareEnds.2

/-- No row of the instruction ends with a blank. -/
theorem visible_filledRows (width : Nat) :
    ∀ row ∈ instruction.filledRows width,
      row ≠ [] ∧ ∀ c ∈ row.getLast?, Text.isBlank c = false := by
  rw [filledRows_eq, List.forall_mem_cons, List.forall_mem_map]
  refine ⟨⟨by simp [addressText], ?_⟩, fun comment mem => ?_⟩
  · have notNil : instruction.bodyText ≠ [] := List.cons_ne_nil _ _
    rw [addressText_eq_append, ← List.append_assoc, List.getLast?_append_of_ne_nil _ notNil]
    exact legible.visible_bodyText
  · have visible := legible.toList_comment_ne_nil comment (List.mem_of_mem_tail mem)
    rw [List.getLast?_append_of_ne_nil _ visible]
    exact ⟨by simp [visible], comment.hasBareEnds.2⟩

/-- So the rows are printed as they are. -/
theorem printedRows_eq (width : Nat) :
    instruction.printedRows width = instruction.filledRows width := by
  rw [printedRows]
  refine (List.map_congr_left fun row mem => ?_).trans (List.map_id _)
  exact Text.trimEnd_eq_self (legible.visible_filledRows width row mem).2

/-- The first row is read as an instruction line. -/
theorem reads_firstRow (wide : ∀ label ∈ instruction.label, label.length < width)
    {digits : List Char} (numeral : Text.IsHexNumeral digits) :
    Line.Reads (instruction.labelColumn width ++ addressText digits instruction.bodyText)
      (.instruction ⟨instruction.label.map String.toList, digits, instruction.bodyText⟩) := by
  rw [labelColumn, Text.alignLeft]
  cases label : instruction.label with
  | none =>
    exact legible.reads_of_unlabelled (by simpa using Text.isBlankText_spaces width) numeral
  | some text =>
    have gap : (Text.spaces (width - text.length)).toList ≠ [] := by
      have room := wide text label
      simp [Text.spaces]
      omega
    have reads := reads_of_labelled (legible.label text label) gap (Text.isBlankText_spaces _)
      numeral instruction.bodyText
    simpa using reads

/-- The rows of the instruction are read as an instruction line and comment lines. -/
theorem map_ofText_filledRows (wide : ∀ label ∈ instruction.label, label.length < width) :
    (instruction.filledRows width).map Line.ofText =
      .instruction instruction.line :: instruction.comments.tail.map .comment := by
  have numeral := Text.isHexNumeral_hexPadded 16 instruction.address.toNat
  have first := Line.reads_iff.mp (legible.reads_firstRow wide numeral)
  have beneath (comment : Comment) (mem : comment ∈ instruction.comments.tail) :
      Line.ofText ((instruction.indent width).toList ++ comment.text.toList) = .comment comment :=
    Line.reads_iff.mp (reads_comment (Text.isBlankText_spaces _)
      (legible.comments comment (List.mem_of_mem_tail mem)).1)
  rw [filledRows_eq, List.map_cons, first, List.map_map]
  refine congrArg (List.cons _) (List.map_congr_left fun comment mem => ?_)
  rw [Function.comp_apply, beneath comment mem]

/-- The mnemonic is the first word where no modifier stands. -/
theorem isFirstWord_mnemonic {front back : List Char} (frontBlank : Text.IsBlankText front)
    (backBlank : Text.IsBlankText back) :
    Text.IsFirstWord
      (front ++ (instruction.mnemonic.toList ++ instruction.operandText.toList ++ back))
      instruction.mnemonic.toList (joinOperands (instruction.operands.map String.toList)) := by
  have bare := hasBareEnds_joinOperands legible.isOperandText
  rw [toList_operandText]
  split_ifs with empty
  · have nothing := (joinOperands_eq_nil_iff legible.isOperandText).mpr (by simp [empty])
    exact ⟨front, [], back, frontBlank, Text.isBlankText_nil, backBlank, legible.mnemonic, bare,
      fun _ => nothing, by simp [nothing]⟩
  · exact ⟨front, [' '], back, frontBlank, Text.isBlankText_spaces 1, backBlank,
      legible.mnemonic, bare, fun adjacent => absurd adjacent (List.cons_ne_nil _ _), by simp⟩

/-- The code of the first row says modifier, mnemonic and operands. -/
theorem codeReads {back : List Char} (blank : Text.IsBlankText back) :
    CodeReads (' ' :: (instruction.operationText ++ back))
      (instruction.modifier.map String.toList) instruction.mnemonic.toList
      (joinOperands (instruction.operands.map String.toList)) := by
  have space : Text.IsBlankText [' '] := Text.isBlankText_spaces 1
  rw [operationText_eq]
  cases found : instruction.modifier with
  | none =>
    refine .plain _ _ (legible.isFirstWord_mnemonic space blank) fun modifies => ?_
    have empty := (legible.mnemonicAlone modifies).resolve_left (absurd found ·)
    rw [empty]
    rfl
  | some modifier =>
    have modifies := legible.modifier modifier found
    refine .modified modifier.toList
      (instruction.mnemonic.toList ++ instruction.operandText.toList) _ _ ?_ modifies ?_
    · exact ⟨[' '], [' '], back, space, space, blank, (isWordText_of_isModifier modifies).1,
        legible.hasBareEnds_mnemonic_operands,
        fun adjacent => absurd adjacent (List.cons_ne_nil _ _), by simp⟩
    · simpa using legible.isFirstWord_mnemonic Text.isBlankText_nil Text.isBlankText_nil

/-- No semicolon stands in front of the comment line. -/
theorem not_mem_code {back : List Char} (plain : ';' ∉ back) :
    ';' ∉ ' ' :: (instruction.operationText ++ back) := by
  have inOperation := not_mem_operationText (c := ';') (by decide) (by decide)
    (fun modifier mem => (isWordText_of_isModifier (legible.modifier modifier mem)).2.1)
    legible.mnemonicPlain (fun operand mem => (legible.operands operand mem).2.1)
  simp [inOperation, plain]

/-- The first row holds the code, and the first comment line behind it. -/
theorem exists_bodyReads :
    ∃ back inline, Text.IsBlankText back ∧
      BodyReads instruction.bodyText (' ' :: (instruction.operationText ++ back)) inline ∧
      instruction.comments = inline ++ instruction.comments.tail := by
  rw [bodyText, inlineText]
  cases comments : instruction.comments with
  | nil =>
    exact ⟨[], [], Text.isBlankText_nil, .bare (legible.not_mem_code (by simp)), rfl⟩
  | cons first rest =>
    obtain ⟨behind, starts⟩ :=
      List.head?_eq_some_iff.mp (legible.comments first (by simp [comments])).1
    have same : Comment.ofText (String.ofList (';' :: behind)) = first := by
      rw [← starts, String.ofList_toList, Comment.ofText_text]
    have plain : ';' ∉ commentGap.toList := by decide
    have cut := BodyReads.remarked _ behind (legible.not_mem_code plain) rfl
    rw [same] at cut
    exact ⟨commentGap.toList, [first], Text.isBlankText_spaces 2, by simpa [starts] using cut, rfl⟩

/-- The first row and the comment lines beneath it say the instruction. -/
theorem describes : instruction.line.Describes none instruction.comments.tail instruction := by
  have numeral := Text.isHexNumeral_hexPadded 16 instruction.address.toNat
  have address := (Text.readHex?_eq numeral).symm.trans (Text.readHex?_hexPadded _ _)
  obtain ⟨back, inline, blank, cut, comments⟩ := legible.exists_bodyReads
  refine ⟨(Option.some.inj address).symm, by simp [line], _, inline, _, _, _, cut,
    legible.codeReads blank, by simp, by simp, listsOperands_iff.mpr ?_, comments⟩
  simp [operands_joinOperands legible.isOperandText]

end IsLegible

end Instruction

end Devirt
