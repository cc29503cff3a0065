import Mathlib.Data.List.Basic
import Devirt.Instruction.Listing
import Devirt.Proofs.AddressText
import Devirt.Proofs.TextLines

/-!
# Rows of a rendered instruction

An instruction is rendered whole or row by row. The whole loses blanks once at its end, a row
loses them at the end of each row, and the number of rows only looks at the number of comment
lines. The three agree for an instruction with at most one comment line, and for one whose
comment lines are all visible. An empty comment line among several makes them differ: at the end
it takes its row with it, and anywhere else its row keeps the blanks that lead up to it.

Columns have no part in this. It holds for every width.
-/

namespace Devirt

namespace Text

/-- A run of spaces is blank. -/
theorem isBlankText_spaces (count : Nat) : IsBlankText (spaces count).toList := by
  intro c mem
  rw [spaces, String.toList_ofList] at mem
  rw [(List.mem_replicate.mp mem).2]
  rfl

/-- A character of interleaved texts comes from one of them or from what stands between. -/
theorem not_mem_intercalate {c : Char} {between : List Char} {texts : List (List Char)}
    (notBetween : c ∉ between) (each : ∀ text ∈ texts, c ∉ text) :
    c ∉ between.intercalate texts := by
  induction texts with
  | nil => simp
  | cons text rest ih =>
    obtain ⟨first, others⟩ := List.forall_mem_cons.mp each
    cases rest with
    | nil => simpa using first
    | cons next rest =>
      rw [List.intercalate_cons_cons]
      simp [first, notBetween, ih others]

/-- Rows that lose blanks at their ends one by one are what a joined text that loses them once is
cut into exactly when the rows in front lose none and the last row is not blank. -/
theorem pieces_trimEnd_joinLines_iff {front : List (List Char)} {last : List Char}
    (notNil : front ≠ []) (free : ∀ row ∈ front ++ [last], '\n' ∉ row) :
    pieces (trimEnd (joinLines (front ++ [last]))) = (front ++ [last]).map trimEnd ↔
      (∀ row ∈ front, trimEnd row = row) ∧ trimEnd last ≠ [] := by
  have frontFree : ∀ row ∈ front, '\n' ∉ row := fun row mem => free row (List.mem_append_left _ mem)
  have joined : joinLines (front ++ [last]) = joinLines front ++ '\n' :: last :=
    joinLines_append notNil (List.cons_ne_nil last [])
  by_cases blank : trimEnd last = []
  -- The last row goes, and its line feed with it.
  · have gone : trimEnd (joinLines (front ++ [last])) = trimEnd (joinLines front) := by
      rw [joined]
      apply trimEnd_append
      intro c mem
      rcases List.mem_cons.mp mem with rfl | mem
      · rfl
      · exact trimEnd_eq_nil_iff.mp blank c mem
    have fewer := length_pieces_trimEnd_le (joinLines front)
    rw [pieces_joinLines_of_free notNil frontFree] at fewer
    simp only [blank, ne_eq, not_true_eq_false, and_false, iff_false]
    intro same
    have count := congrArg List.length same
    rw [gone, List.length_map, List.length_append, List.length_singleton] at count
    omega
  · have kept : trimEnd (joinLines (front ++ [last])) = joinLines (front ++ [trimEnd last]) := by
      rw [joined, joinLines_append notNil (List.cons_ne_nil _ []), ← List.singleton_append,
        ← List.append_assoc, trimEnd_append_of_ne_nil blank, List.append_assoc]
      rfl
    have lastFree : '\n' ∉ trimEnd last := not_mem_trimEnd (free last (by simp))
    have rowsFree : ∀ row ∈ front ++ [trimEnd last], '\n' ∉ row := by
      intro row mem
      rcases List.mem_append.mp mem with mem | mem
      · exact frontFree row mem
      · rw [List.mem_singleton.mp mem]
        exact lastFree
    have same : front.map trimEnd = front ↔ ∀ row ∈ front, trimEnd row = row := by
      simpa using List.map_inj_left (f := trimEnd) (g := id) (l := front)
    rw [kept, pieces_joinLines_of_free (by simp) rowsFree, List.map_append, List.map_singleton,
      List.append_left_inj, eq_comm, same]
    exact (and_iff_left blank).symm

/-- A row that starts with blanks is as long as it is without blanks at its end exactly when a
comment line stands behind the blanks. -/
theorem trimEnd_gap_comment_iff (front : List Char) {gap : List Char} (blank : IsBlankText gap)
    (notNil : gap ≠ []) (comment : Comment) :
    trimEnd (front ++ gap ++ comment.text.toList) = front ++ gap ++ comment.text.toList ↔
      comment.text ≠ "" := by
  apply Iff.intro
  · intro same empty
    rw [empty, String.toList_empty, List.append_nil, trimEnd_append blank] at same
    have shorter := (exists_trimEnd_append front).imp fun blanks parts => parts.2
    obtain ⟨blanks, split⟩ := shorter
    have length := congrArg List.length same
    have whole := congrArg List.length split
    have pos := List.length_pos_iff.mpr notNil
    rw [List.length_append] at length whole
    omega
  · intro visible
    exact trimEnd_eq_self (Comment.visible_append visible _)

/-- A row of blanks and a comment line is blank exactly when the comment line is empty. -/
theorem trimEnd_gap_ne_nil_iff {gap : List Char} (blank : IsBlankText gap) (comment : Comment) :
    trimEnd (gap ++ comment.text.toList) ≠ [] ↔ comment.text ≠ "" := by
  have all : IsBlankText (gap ++ comment.text.toList) ↔ IsBlankText comment.text.toList := by
    simp only [IsBlankText, List.forall_mem_append]
    exact and_iff_right blank
  rw [ne_eq, trimEnd_eq_nil_iff, all, ← trim_eq_nil_iff, trim_eq_self comment.hasBareEnds,
    String.toList_eq_nil_iff]

end Text

namespace Instruction

variable {instruction : Instruction} {width : Nat}

/-- The rows before blanks are taken off at their ends. -/
def filledRows (width : Nat) (instruction : Instruction) : List (List Char) :=
  match instruction.comments with
  | [] => [(instruction.head width).toList]
  | first :: rest =>
    ((instruction.head width).toList ++ commentGap.toList ++ first.text.toList) ::
      rest.map fun comment => (instruction.indent width).toList ++ comment.text.toList

/-- The rows as they are printed one by one. -/
def printedRows (width : Nat) (instruction : Instruction) : List (List Char) :=
  (instruction.filledRows width).map Text.trimEnd

/-- Without comment lines there is one row. -/
theorem filledRows_of_nil (comments : instruction.comments = []) :
    instruction.filledRows width = [(instruction.head width).toList] := by
  rw [filledRows, comments]

/-- With comment lines the first row holds the first of them. -/
theorem filledRows_of_cons {first : Comment} {rest : List Comment}
    (comments : instruction.comments = first :: rest) :
    instruction.filledRows width =
      ((instruction.head width).toList ++ commentGap.toList ++ first.text.toList) ::
        rest.map fun comment => (instruction.indent width).toList ++ comment.text.toList := by
  rw [filledRows, comments]

/-- There is always a row. -/
theorem filledRows_ne_nil (width : Nat) (instruction : Instruction) :
    instruction.filledRows width ≠ [] := by
  rw [filledRows]
  split <;> simp

/-- The instruction rendered whole is its filled rows, less the blanks at the end of the last. -/
theorem toList_render (width : Nat) (instruction : Instruction) :
    (instruction.render width).toList =
      Text.trimEnd (Text.joinLines (instruction.filledRows width)) := by
  rw [render, filledRows]
  cases instruction.comments with
  | nil => simp [Text.trimmedEnd, Text.joinLines]
  | cons first rest =>
    simp [Text.trimmedEnd, Text.joinLines_cons_eq_flatMap, String.toList_join, List.flatMap_map]

/-- The instruction rendered row by row is its filled rows, each less the blanks at its end. -/
theorem map_renderLine (width : Nat) (instruction : Instruction) :
    (List.range instruction.rowCount).map (fun row => instruction.renderLine width row) =
      ((instruction.printedRows width).map String.ofList).map some := by
  cases comments : instruction.comments with
  | nil => simp [rowCount, renderLine, printedRows, filledRows, comments, Text.trimmedEnd]
  | cons first rest =>
    have count : instruction.rowCount = rest.length + 1 := by simp [rowCount, comments]
    have beneath :
        (List.range rest.length).map (fun row => instruction.renderLine width (row + 1)) =
          rest.map fun comment =>
            some (Text.trimmedEnd (instruction.indent width ++ comment.text)) := by
      apply List.ext_getElem
      · simp
      · intro row inRange _
        have inRange : row < rest.length := by simpa using inRange
        simp [renderLine, comments, inRange]
    rw [count, List.range_succ_eq_map, List.map_cons, List.map_map]
    refine (congrArg _ beneath).trans ?_
    simp [renderLine, printedRows, filledRows, comments, Text.trimmedEnd]

/-- Rows beneath the first are set in. -/
theorem indent_ne_nil (width : Nat) (instruction : Instruction) :
    (instruction.indent width).toList ≠ [] := by
  simp [indent, Text.spaces, commentGap]

/-- What stands behind the address: modifier, mnemonic and operands. -/
def operationText (instruction : Instruction) : List Char :=
  (instruction.modifierText ++ instruction.mnemonic ++ instruction.operandText).toList

/-- The row without its comment line, piece by piece. -/
theorem toList_head (width : Nat) (instruction : Instruction) :
    (instruction.head width).toList =
      (Text.alignLeft width (instruction.label.getD "")).toList ++
        ('0' :: 'x' :: Text.hexPadded 16 instruction.address.toNat) ++
        (':' :: ' ' :: instruction.operationText) := by
  simp [head, operationText, Address.toList_text]

/-- A character other than the separators comes from a field. -/
theorem not_mem_operationText {c : Char} (notSpace : c ≠ ' ') (notComma : c ≠ ',')
    (modifier : ∀ modifier ∈ instruction.modifier, c ∉ modifier.toList)
    (mnemonic : c ∉ instruction.mnemonic.toList)
    (operands : ∀ operand ∈ instruction.operands, c ∉ operand.toList) :
    c ∉ instruction.operationText := by
  have inModifier : c ∉ instruction.modifierText.toList := by
    rw [modifierText]
    cases found : instruction.modifier with
    | none => simp
    | some text => simpa [notSpace] using modifier text found
  have inOperands : c ∉ instruction.operandText.toList := by
    rw [operandText]
    split
    · simp
    · have each : ∀ operand ∈ instruction.operands.map String.toList, c ∉ operand := by
        simpa using operands
      simpa [notSpace] using Text.not_mem_intercalate (by simp [notSpace, notComma]) each
  simp [operationText, inModifier, mnemonic, inOperands]

/-- No field of the instruction holds a line feed. -/
structure IsFeedFree (instruction : Instruction) : Prop where
  label : ∀ label ∈ instruction.label, '\n' ∉ label.toList
  modifier : ∀ modifier ∈ instruction.modifier, '\n' ∉ modifier.toList
  mnemonic : '\n' ∉ instruction.mnemonic.toList
  operands : ∀ operand ∈ instruction.operands, '\n' ∉ operand.toList
  comments : ∀ comment ∈ instruction.comments, '\n' ∉ comment.text.toList

instance : DecidablePred IsFeedFree := fun instruction =>
  decidable_of_iff
    ((∀ label ∈ instruction.label, '\n' ∉ label.toList) ∧
      (∀ modifier ∈ instruction.modifier, '\n' ∉ modifier.toList) ∧
      '\n' ∉ instruction.mnemonic.toList ∧
      (∀ operand ∈ instruction.operands, '\n' ∉ operand.toList) ∧
      ∀ comment ∈ instruction.comments, '\n' ∉ comment.text.toList)
    ⟨fun ⟨label, modifier, mnemonic, operands, comments⟩ =>
        ⟨label, modifier, mnemonic, operands, comments⟩,
      fun free => ⟨free.label, free.modifier, free.mnemonic, free.operands, free.comments⟩⟩

/-- Then its row without the comment line holds none. -/
theorem IsFeedFree.head (free : instruction.IsFeedFree) (width : Nat) :
    '\n' ∉ (instruction.head width).toList := by
  have inLabel : '\n' ∉ (instruction.label.getD "").toList := by
    cases found : instruction.label with
    | none => simp
    | some text => exact free.label text found
  have inDigits : '\n' ∉ Text.hexPadded 16 instruction.address.toNat :=
    fun mem => absurd (Text.isHexDigit_of_mem_hexPadded mem) (by decide)
  have inOperation := not_mem_operationText (c := '\n') (by decide) (by decide) free.modifier
    free.mnemonic free.operands
  simp [toList_head, Text.alignLeft, Text.spaces, inLabel, inDigits, inOperation]

/-- Then none of its rows holds one. -/
theorem IsFeedFree.filledRows (free : instruction.IsFeedFree) (width : Nat) :
    ∀ row ∈ instruction.filledRows width, '\n' ∉ row := by
  have inHead := free.head width
  have inComments := free.comments
  cases comments : instruction.comments with
  | nil => simpa [filledRows_of_nil comments] using inHead
  | cons first rest =>
    rw [comments] at inComments
    rw [filledRows_of_cons comments]
    obtain ⟨inFirst, inRest⟩ := List.forall_mem_cons.mp inComments
    rw [List.forall_mem_cons, List.forall_mem_map]
    refine ⟨by simp [inHead, inFirst, commentGap], ?_⟩
    intro comment mem
    simp [indent, Text.spaces, inRest comment mem]

/-- Taking blanks off makes no line feed. -/
theorem IsFeedFree.printedRows (free : instruction.IsFeedFree) (width : Nat) :
    ∀ row ∈ instruction.printedRows width, '\n' ∉ row := by
  intro row mem
  obtain ⟨filled, inFilled, rfl⟩ := List.mem_map.mp mem
  exact Text.not_mem_trimEnd (free.filledRows width filled inFilled)

/-- There is at most one comment line, or all of them are visible. -/
def KeepsRows (instruction : Instruction) : Prop :=
  instruction.comments.length ≤ 1 ∨ ∀ comment ∈ instruction.comments, comment.text ≠ ""

instance : DecidablePred KeepsRows := fun instruction =>
  inferInstanceAs (Decidable (instruction.comments.length ≤ 1 ∨ ∀ _ ∈ instruction.comments, _))

/-- The instruction rendered whole has the rows that are printed one by one exactly when it keeps
its rows. -/
theorem pieces_render_iff (free : instruction.IsFeedFree) (width : Nat) :
    Text.pieces (instruction.render width).toList = instruction.printedRows width ↔
      instruction.KeepsRows := by
  have rowsFree := free.filledRows width
  rw [toList_render, printedRows, KeepsRows]
  have single {row : List Char} (rowFree : '\n' ∉ row) :
      Text.pieces (Text.trimEnd (Text.joinLines [row])) = [row].map Text.trimEnd :=
    Text.pieces_eq_singleton (Text.not_mem_trimEnd rowFree)
  cases comments : instruction.comments with
  | nil =>
    rw [filledRows_of_nil comments] at rowsFree ⊢
    simpa using single (rowsFree _ List.mem_cons_self)
  | cons first rest =>
    rw [filledRows_of_cons comments] at rowsFree ⊢
    rcases List.eq_nil_or_concat rest with rfl | ⟨middle, last, rfl⟩
    · simpa using single (rowsFree _ List.mem_cons_self)
    · rw [List.concat_eq_append, List.map_append, List.map_singleton, ← List.cons_append]
        at rowsFree ⊢
      rw [Text.pieces_trimEnd_joinLines_iff (List.cons_ne_nil _ _) rowsFree]
      have gapBlank : Text.IsBlankText commentGap.toList := Text.isBlankText_spaces 2
      have gap := Text.trimEnd_gap_comment_iff (instruction.head width).toList gapBlank (by decide)
        first
      have beneath := Text.trimEnd_gap_comment_iff [] (Text.isBlankText_spaces _)
        (instruction.indent_ne_nil width)
      simp only [List.nil_append] at beneath
      have final := Text.trimEnd_gap_ne_nil_iff (Text.isBlankText_spaces
        ((instruction.head width).length + commentGap.length)) last
      have several : ¬ (first :: (middle ++ [last])).length ≤ 1 := by simp
      simp only [List.forall_mem_cons, List.forall_mem_map, List.forall_mem_append, gap,
        several, false_or]
      simp [indent, beneath, final, and_assoc]

/-- A rendered instruction never has more rows than are printed one by one. -/
theorem length_pieces_render_le (free : instruction.IsFeedFree) (width : Nat) :
    (Text.pieces (instruction.render width).toList).length ≤
      (instruction.printedRows width).length := by
  rw [toList_render, printedRows, List.length_map]
  conv_rhs =>
    rw [← Text.pieces_joinLines_of_free (instruction.filledRows_ne_nil width)
      (free.filledRows width)]
  exact Text.length_pieces_trimEnd_le _

end Instruction

namespace Listing

variable {instructions : List Instruction}

/-- The rows of an instruction are its printed rows, with its number. -/
theorem instructionRows_eq (width index : Nat) (instruction : Instruction) :
    instructionRows width index instruction =
      (instruction.printedRows width).map fun row => ⟨index, String.ofList row⟩ := by
  have lines := congrArg (List.filterMap (Option.map (Row.mk index)))
    (instruction.map_renderLine width)
  rw [List.filterMap_map, List.filterMap_map] at lines
  rw [instructionRows]
  refine lines.trans ?_
  simp

/-- The texts of the rows are the printed rows of the instructions, one after the other. -/
theorem map_text_rows (instructions : List Instruction) :
    (rows instructions).map (·.text) =
      (instructions.flatMap (·.printedRows (width instructions))).map String.ofList := by
  have each : (rows instructions).map (·.text) = instructions.zipIdx.flatMap fun entry =>
      (entry.1.printedRows (width instructions)).map String.ofList := by
    simp [rows, instructionRows_eq, List.map_flatMap, Function.comp_def]
  rw [each, List.map_flatMap]
  generalize width instructions = column
  conv_rhs => rw [← List.zipIdx_map_fst 0 instructions, List.flatMap_map]

/-- The listing is the rendered instructions with line feeds between them. -/
theorem toList_text (instructions : List Instruction) :
    (text instructions).toList =
      Text.joinLines (instructions.map fun i => (i.render (width instructions)).toList) := by
  rw [text, Text.toList_intercalate_feed, List.map_map]
  rfl

section FlatMap

variable {α β : Type} {f g : α → List β} {xs : List α}

/-- Lists that are shorter one by one are shorter together. -/
theorem length_flatMap_le (shorter : ∀ x ∈ xs, (f x).length ≤ (g x).length) :
    (xs.flatMap f).length ≤ (xs.flatMap g).length := by
  induction xs with
  | nil => simp
  | cons x rest ih =>
    obtain ⟨first, others⟩ := List.forall_mem_cons.mp shorter
    have rests := ih others
    simp only [List.flatMap_cons, List.length_append]
    omega

/-- Where one way never makes the longer list, two ways of making lists agree together only if
they agree one by one. -/
theorem flatMap_eq_flatMap_iff (shorter : ∀ x ∈ xs, (f x).length ≤ (g x).length) :
    xs.flatMap f = xs.flatMap g ↔ ∀ x ∈ xs, f x = g x := by
  refine ⟨fun same => ?_, fun each => List.flatMap_congr each⟩
  induction xs with
  | nil => simp
  | cons x rest ih =>
    obtain ⟨first, others⟩ := List.forall_mem_cons.mp shorter
    have lengths := congrArg List.length same
    have rests := length_flatMap_le others
    simp only [List.flatMap_cons, List.length_append] at lengths
    have equal : (f x).length = (g x).length := by omega
    obtain ⟨head, tail⟩ := List.append_inj same equal
    exact List.forall_mem_cons.mpr ⟨head, ih others tail⟩

end FlatMap

/-- The listing is cut into its rows exactly when every instruction keeps its rows. -/
theorem pieces_text_iff (notNil : instructions ≠ []) (free : ∀ i ∈ instructions, i.IsFeedFree) :
    Text.pieces (text instructions).toList =
        instructions.flatMap (·.printedRows (width instructions)) ↔
      ∀ i ∈ instructions, i.KeepsRows := by
  have mapSome : instructions.map (fun i => (i.render (width instructions)).toList) ≠ [] := by
    simpa using notNil
  rw [toList_text, Text.pieces_joinLines mapSome, List.flatMap_map, flatMap_eq_flatMap_iff
    fun i mem => Instruction.length_pieces_render_le (free i mem) _]
  exact forall₂_congr fun i mem => Instruction.pieces_render_iff (free i mem) _

/-- A row of the listing is a row of the instruction whose number it bears. -/
theorem exists_of_mem_rows {row : Row} (mem : row ∈ rows instructions) :
    ∃ i, instructions[row.instruction]? = some i ∧
      ∃ line < i.rowCount, i.renderLine (width instructions) line = some row.text := by
  obtain ⟨⟨i, index⟩, listed, mem⟩ := List.mem_flatMap.mp mem
  obtain ⟨line, inRange, made⟩ := List.mem_filterMap.mp mem
  obtain ⟨text, rendered, rfl⟩ := Option.map_eq_some_iff.mp made
  exact ⟨i, List.mem_zipIdx_iff_getElem?.mp listed, line, List.mem_range.mp inRange, rendered⟩

/-- Rows cut from a string are equal when their characters are. -/
theorem map_ofList_inj {a b : List (List Char)} :
    a.map String.ofList = b.map String.ofList ↔ a = b :=
  List.map_inj_right fun _ _ => String.ofList_inj.mp

/-- For instructions without line feeds in their fields, whatever the width: cutting a rendered
instruction at its line feeds gives the rows that are rendered one by one, as many as it counts,
exactly when it keeps its rows. The listing is its rows with line feeds between them, and is cut
into them again, exactly when all its instructions keep their rows. In any case each row is a row
of the instruction whose number it bears. -/
theorem rows_agree_iff (instructions : List Instruction)
    (free : ∀ i ∈ instructions, i.IsFeedFree) :
    (∀ i ∈ instructions, ∀ width,
      (Text.cutAtFeeds (i.render width)).map some =
        (List.range i.rowCount).map (fun row => i.renderLine width row) ↔ i.KeepsRows) ∧
    ("\n".intercalate ((rows instructions).map (·.text)) = text instructions ↔
      ∀ i ∈ instructions, i.KeepsRows) ∧
    (instructions ≠ [] → (Text.cutAtFeeds (text instructions) = (rows instructions).map (·.text) ↔
      ∀ i ∈ instructions, i.KeepsRows)) ∧
    ∀ row ∈ rows instructions, ∃ i, instructions[row.instruction]? = some i ∧
      ∃ line < i.rowCount, i.renderLine (width instructions) line = some row.text := by
  have cut (notNil : instructions ≠ []) :
      Text.cutAtFeeds (text instructions) = (rows instructions).map (·.text) ↔
        ∀ i ∈ instructions, i.KeepsRows := by
    rw [Text.cutAtFeeds, map_text_rows, map_ofList_inj, pieces_text_iff notNil free]
  refine ⟨fun i mem width => ?_, ?_, cut, fun row => exists_of_mem_rows⟩
  · rw [Instruction.map_renderLine, List.map_inj_right fun _ _ => Option.some.inj,
      Text.cutAtFeeds, map_ofList_inj, Instruction.pieces_render_iff (free i mem)]
  · cases instructions with
    | nil => simp [rows, text]
    | cons first rest =>
      rw [← cut (List.cons_ne_nil first rest), Text.cutAtFeeds_eq_iff]
      · rw [map_text_rows]
        simp [Instruction.printedRows, Instruction.filledRows_ne_nil]
      · rw [map_text_rows]
        intro row mem
        obtain ⟨cs, printed, rfl⟩ := List.mem_map.mp mem
        obtain ⟨i, listed, inRows⟩ := List.mem_flatMap.mp printed
        rw [String.toList_ofList]
        exact (free i listed).printedRows _ cs inRows

/-- An instruction without operands and with comment lines of the given texts. -/
def commented (texts : List String) : Instruction where
  address := 16
  mnemonic := "nop"
  comments := texts.map Comment.ofText

/-- With visible comment lines the listing is its rows. -/
theorem rows_agree_of_visible :
    (∀ i ∈ [commented ["; a", "; b"], commented [""]], i.IsFeedFree) ∧
      Text.cutAtFeeds (text [commented ["; a", "; b"], commented [""]]) =
        (rows [commented ["; a", "; b"], commented [""]]).map (·.text) := by
  have free : ∀ i ∈ [commented ["; a", "; b"], commented [""]], i.IsFeedFree := by
    decide +kernel
  exact ⟨free, ((rows_agree_iff _ free).2.2.1 (by simp)).mpr (by decide +kernel)⟩

/-- An empty comment line behind another takes its row with it: two rows are counted and rendered
one by one, but the instruction has only one. -/
theorem rows_of_emptyComment_differ :
    (commented ["; a", ""]).IsFeedFree ∧ (commented ["; a", ""]).rowCount = 2 ∧
      Text.cutAtFeeds ((commented ["; a", ""]).render 0) =
        ["0x0000000000000010: nop  ; a"] ∧
      "\n".intercalate ((rows [commented ["; a", ""]]).map (·.text)) ≠
        text [commented ["; a", ""]] := by
  decide +kernel

end Listing

end Devirt
