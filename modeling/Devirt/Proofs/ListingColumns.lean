import Devirt.Proofs.RenderedRows

/-!
# Columns of a listing

Labels share one column, one space wider than the widest of them, so in a listing every address
starts at the same place, with a space between it and the label in front of it. Comment lines
share a column with each other: those beneath the first row are set in as far as the first row is
filled in front of its comment line.

Blanks are taken off at the ends of rows only, and neither an address nor a visible comment line
ends with one, so no column is moved by that. Widths count characters of any script.
-/

namespace Devirt

namespace Text

/-- A hexadecimal digit is visible. -/
theorem isBlank_of_isHexDigit {c : Char} (digit : isHexDigit c = true) : isBlank c = false := by
  by_contra blank
  have no := of_isBlank (P := fun c => isHexDigit c = false) (by decide) (by simpa using blank)
  rw [digit] at no
  cases no

/-- In front of an entry stand as many as its place says. -/
theorem exists_append_of_getElem? {α : Type} {xs : List α} {place : Nat} {x : α}
    (found : xs[place]? = some x) :
    ∃ above below, xs = above ++ x :: below ∧ above.length = place := by
  obtain ⟨inRange, rfl⟩ := List.getElem?_eq_some_iff.mp found
  refine ⟨xs.take place, xs.drop (place + 1), ?_, ?_⟩
  · rw [← List.drop_eq_getElem_cons inRange, List.take_append_drop]
  · rw [List.length_take, Nat.min_eq_left (Nat.le_of_lt inRange)]

/-- Rows behind a row stand behind a line feed each. -/
theorem joinLines_append_cons (above below : List (List Char)) (row : List Char) :
    joinLines (above ++ row :: below) =
      joinLines (above ++ [row]) ++ below.flatMap ('\n' :: ·) := by
  by_cases first : above = []
  · rw [first, List.nil_append, joinLines_cons_eq_flatMap]
    rfl
  · rw [joinLines_append first (List.cons_ne_nil _ _),
      joinLines_append first (List.cons_ne_nil _ _), joinLines_cons_eq_flatMap]
    simp [joinLines]

/-- Joined rows end as the last of them does. -/
theorem getLast?_joinLines_append {row : List Char} (notNil : row ≠ [])
    (above : List (List Char)) : (joinLines (above ++ [row])).getLast? = row.getLast? := by
  by_cases first : above = []
  · rw [first]
    rfl
  · rw [joinLines_append first (List.cons_ne_nil _ _),
      List.getLast?_append_of_ne_nil _ (List.cons_ne_nil _ _)]
    exact List.getLast?_cons_of_ne_nil notNil

/-- A row that ends visibly stays where it is when blanks are taken off behind all rows. Behind it
stands nothing or a line feed. -/
theorem exists_trimEnd_joinLines_eq (above below : List (List Char)) {row : List Char}
    (notNil : row ≠ []) (visible : ∀ c ∈ row.getLast?, isBlank c = false) :
    ∃ behind, trimEnd (joinLines (above ++ row :: below)) =
        joinLines (above ++ [row]) ++ behind ∧ ∀ c ∈ behind.head?, c = '\n' := by
  refine ⟨trimEnd (below.flatMap ('\n' :: ·)), ?_, ?_⟩
  · rw [joinLines_append_cons, trimEnd_append_of_visible]
    rwa [getLast?_joinLines_append notNil]
  · intro c mem
    have starts := mem_head?_of_mem_head?_trimEnd mem
    cases below with
    | nil => cases starts
    | cons next below => exact (Option.some.inj starts).symm

end Text

namespace Listing

variable {instructions : List Instruction}

/-- The label column of a listing is wider than each label. -/
theorem length_lt_width {instruction : Instruction} (mem : instruction ∈ instructions) :
    ∀ label ∈ instruction.label, label.length < width instructions := by
  intro label labelMem
  have listed : label.length ∈ (instructions.filterMap (·.label)).map String.length :=
    List.mem_map_of_mem (List.mem_filterMap.mpr ⟨instruction, mem, labelMem⟩)
  rw [width]
  cases widest : ((instructions.filterMap (·.label)).map String.length).max? with
  | none =>
    rw [List.max?_eq_none_iff] at widest
    rw [widest] at listed
    cases listed
  | some most => exact Nat.lt_succ_of_le ((List.max?_eq_some_iff.mp widest).2 _ listed)

end Listing

namespace Instruction

variable {instruction : Instruction} {width : Nat}

/-- The label column and the address behind it. -/
def addressedLabel (width : Nat) (instruction : Instruction) : String :=
  Text.alignLeft width (instruction.label.getD "") ++ Address.text instruction.address

/-- The row without its comment line starts with the address in its column. -/
theorem toList_head_eq_append (width : Nat) (instruction : Instruction) :
    (instruction.head width).toList =
      (instruction.addressedLabel width).toList ++ (':' :: ' ' :: instruction.operationText) := by
  simp [toList_head, addressedLabel, Address.toList_text]

/-- An address ends with a digit. -/
theorem visible_addressedLabel (width : Nat) (instruction : Instruction) :
    ∀ c ∈ (instruction.addressedLabel width).toList.getLast?, Text.isBlank c = false := by
  intro c mem
  have notNil := Text.hexPadded_ne_nil 16 instruction.address.toNat
  rw [addressedLabel, String.toList_append, Address.toList_text,
    List.getLast?_append_of_ne_nil _ (List.cons_ne_nil _ _), List.getLast?_cons_cons,
    List.getLast?_cons_of_ne_nil notNil] at mem
  exact Text.isBlank_of_isHexDigit (Text.isHexDigit_of_mem_hexPadded (List.mem_of_getLast? mem))

/-- What starts with the address in its column still does so without blanks at its end. -/
theorem prefix_trimEnd (width : Nat) (instruction : Instruction) (behind : List Char) :
    (instruction.addressedLabel width).toList <+:
      Text.trimEnd ((instruction.head width).toList ++ behind) := by
  rw [toList_head_eq_append, List.append_assoc,
    Text.trimEnd_append_of_visible (instruction.visible_addressedLabel width)]
  exact List.prefix_append _ _

/-- Rendered whole, an instruction starts with the address in its column. -/
theorem prefix_render (width : Nat) (instruction : Instruction) :
    (instruction.addressedLabel width).toList <+: (instruction.render width).toList := by
  rw [toList_render]
  cases comments : instruction.comments with
  | nil =>
    rw [filledRows_of_nil comments]
    simpa [Text.joinLines] using instruction.prefix_trimEnd width []
  | cons first rest =>
    rw [filledRows_of_cons comments, Text.joinLines_cons_eq_flatMap, List.append_assoc,
      List.append_assoc]
    exact instruction.prefix_trimEnd width _

/-- So does its first row. -/
theorem prefix_renderLine_zero (width : Nat) (instruction : Instruction) :
    ∃ row, instruction.renderLine width 0 = some row ∧
      (instruction.addressedLabel width).toList <+: row.toList := by
  cases comments : instruction.comments with
  | nil =>
    refine ⟨_, by rw [renderLine, comments], ?_⟩
    simpa [Text.trimmedEnd] using instruction.prefix_trimEnd width []
  | cons first rest =>
    refine ⟨_, by rw [renderLine, comments], ?_⟩
    simpa [Text.trimmedEnd] using instruction.prefix_trimEnd width _

section CommentRows

variable {comment : Comment} {row : Nat}

/-- The row beneath the first that shows a comment line. -/
def commentRow (width : Nat) (instruction : Instruction) (comment : Comment) : String :=
  instruction.indent width ++ comment.text

/-- A comment line beneath the first stands behind it. -/
theorem exists_comments_eq (beneath : 0 < row)
    (found : instruction.comments[row]? = some comment) :
    ∃ first rest place,
      instruction.comments = first :: rest ∧ row = place + 1 ∧ rest[place]? = some comment := by
  obtain ⟨place, rfl⟩ := Nat.exists_eq_succ_of_ne_zero (Nat.ne_of_gt beneath)
  cases comments : instruction.comments with
  | nil => simp [comments] at found
  | cons first rest => exact ⟨first, rest, place, rfl, rfl, by simpa [comments] using found⟩

/-- A comment line beneath the first is filled up to its column. -/
theorem getElem?_filledRows (beneath : 0 < row) (found : instruction.comments[row]? = some comment)
    (width : Nat) :
    (instruction.filledRows width)[row]? = some (instruction.commentRow width comment).toList := by
  obtain ⟨first, rest, place, comments, rfl, stands⟩ := exists_comments_eq beneath found
  rw [filledRows_of_cons comments, List.getElem?_cons_succ, List.getElem?_map, stands]
  simp [commentRow]

/-- Its row is rendered as it is, unless it is empty. -/
theorem renderLine_eq_commentRow (beneath : 0 < row)
    (found : instruction.comments[row]? = some comment) (visible : comment.text ≠ "")
    (width : Nat) :
    instruction.renderLine width row = some (instruction.commentRow width comment) := by
  obtain ⟨first, rest, place, comments, rfl, stands⟩ := exists_comments_eq beneath found
  have whole := Text.trimEnd_eq_self
    (Comment.visible_append visible (instruction.indent width).toList)
  simp [renderLine, comments, stands, commentRow, Text.trimmedEnd, whole]

/-- The first comment line stands behind the gap, unless it is empty. -/
theorem renderLine_zero_eq (first : instruction.comments.head? = some comment)
    (visible : comment.text ≠ "") (width : Nat) :
    instruction.renderLine width 0 =
      some (instruction.head width ++ commentGap ++ comment.text) := by
  obtain ⟨rest, comments⟩ := List.head?_eq_some_iff.mp first
  have whole := Text.trimEnd_eq_self
    (Comment.visible_append visible ((instruction.head width).toList ++ commentGap.toList))
  rw [renderLine, comments]
  simpa [Text.trimmedEnd, String.append_assoc] using congrArg String.ofList whole

/-- Rendered whole, an instruction has the row at its place. -/
theorem exists_render_eq (beneath : 0 < row) (found : instruction.comments[row]? = some comment)
    (visible : comment.text ≠ "") (width : Nat) :
    ∃ (above : List String) (behind : String), above.length = row ∧
      instruction.render width =
        "\n".intercalate (above ++ [instruction.commentRow width comment]) ++ behind ∧
      ∀ c ∈ behind.toList.head?, c = '\n' := by
  obtain ⟨above, below, rows, place⟩ :=
    Text.exists_append_of_getElem? (getElem?_filledRows beneath found width)
  have notNil : (instruction.commentRow width comment).toList ≠ [] := by
    simp [commentRow, visible]
  have ends : ∀ c ∈ (instruction.commentRow width comment).toList.getLast?,
      Text.isBlank c = false := by
    rw [commentRow, String.toList_append]
    exact Comment.visible_append visible _
  obtain ⟨behind, whole, feed⟩ := Text.exists_trimEnd_joinLines_eq above below notNil ends
  refine ⟨above.map String.ofList, String.ofList behind, by simp [place], ?_, by simpa using feed⟩
  rw [← String.toList_inj, toList_render, rows, whole, String.toList_append,
    Text.toList_intercalate_feed]
  simp [Function.comp_def]

end CommentRows

end Instruction

namespace Listing

/-- In a listing every instruction starts with its label, or with nothing, and as many spaces as
fill the label column, at least one behind a label, and its address of eighteen characters stands
directly behind them, whether it is rendered whole or in its first row. Whatever the width, a
visible comment line beneath the first stands behind as many spaces as the row without its comment
line has characters and two more, which is where a visible first comment line stands in the first
row, and the instruction rendered whole has the same row in the same place. -/
theorem columns_are_aligned :
    (∀ instructions : List Instruction, ∀ i ∈ instructions, ∃ margin : Nat,
      (∀ label ∈ i.label, 0 < margin) ∧
      (i.label.getD "" ++ Text.spaces margin).length = width instructions ∧
      (Address.text i.address).length = 18 ∧
      (i.label.getD "" ++ Text.spaces margin ++ Address.text i.address).toList <+:
        (i.render (width instructions)).toList ∧
      ∃ row, i.renderLine (width instructions) 0 = some row ∧
        (i.label.getD "" ++ Text.spaces margin ++ Address.text i.address).toList <+: row.toList) ∧
    ∀ (i : Instruction) (width row : Nat) (comment : Comment), 0 < row →
      i.comments[row]? = some comment → comment.text ≠ "" →
        i.renderLine width row =
          some (Text.spaces ((i.head width).length + 2) ++ comment.text) ∧
        (∃ (above : List String) (behind : String), above.length = row ∧
          i.render width = "\n".intercalate
            (above ++ [Text.spaces ((i.head width).length + 2) ++ comment.text]) ++ behind ∧
          ∀ c ∈ behind.toList.head?, c = '\n') ∧
        ∀ first ∈ i.comments.head?, first.text ≠ "" →
          i.renderLine width 0 = some (i.head width ++ "  " ++ first.text) := by
  apply And.intro
  · intro instructions i mem
    have wider := length_lt_width mem
    refine ⟨width instructions - (i.label.getD "").length, ?_, ?_, i.address.length_text,
      i.prefix_render (width instructions), i.prefix_renderLine_zero (width instructions)⟩
    · intro label labelled
      have lt := wider label labelled
      rw [Option.mem_def.mp labelled, Option.getD_some]
      omega
    · refine (Text.length_alignLeft _ _).trans (max_eq_left ?_)
      cases found : i.label with
      | none => exact Nat.zero_le _
      | some label => exact Nat.le_of_lt (wider label found)
  · intro i width row comment beneath found visible
    exact ⟨Instruction.renderLine_eq_commentRow beneath found visible width,
      Instruction.exists_render_eq beneath found visible width,
      fun first isFirst shown => Instruction.renderLine_zero_eq isFirst shown width⟩

/-- A call with three comment lines, of which one is empty. -/
def call : Instruction where
  label := some "é5"
  address := 24
  mnemonic := "call"
  comments := ["; OopMap", "", "; area"].map Comment.ofText

/-- The call beneath an instruction with a longer label. -/
def labelled : List Instruction :=
  [{ label := some "[Entry Point]", address := 16, mnemonic := "push" }, call]

/-- The address of the call stands behind fourteen characters, and its visible comment lines behind
forty. -/
theorem columns_of_labelled :
    width labelled = 14 ∧
      (∃ margin, 0 < margin ∧ ("é5" ++ Text.spaces margin).length = 14 ∧
        ∃ row, call.renderLine 14 0 = some row ∧
          ("é5" ++ Text.spaces margin ++ "0x0000000000000018").toList <+: row.toList) ∧
      call.renderLine 14 0 = some (call.head 14 ++ "  " ++ "; OopMap") ∧
      call.renderLine 14 2 = some (Text.spaces 40 ++ "; area") ∧
      ∃ above behind, above.length = 2 ∧
        call.render 14 = "\n".intercalate (above ++ [Text.spaces 40 ++ "; area"]) ++ behind := by
  obtain ⟨aligned, beneath⟩ := columns_are_aligned
  have widest : width labelled = 14 := by decide +kernel
  have digits : Address.text call.address = "0x0000000000000018" := by decide +kernel
  have filled : (call.head 14).length + 2 = 40 := by decide +kernel
  obtain ⟨margin, apart, full, _, _, row, rendered, starts⟩ := aligned labelled call (by decide)
  obtain ⟨line, ⟨above, behind, place, whole, _⟩, first⟩ :=
    beneath call 14 2 (Comment.ofText "; area") (by decide) (by decide +kernel) (by decide +kernel)
  rw [widest] at full rendered
  rw [digits] at starts
  rw [filled] at line whole
  exact ⟨widest, ⟨margin, apart "é5" rfl, full, row, rendered, starts⟩,
    first (Comment.ofText "; OopMap") (by decide +kernel) (by decide +kernel), line, above, behind,
    place, whole⟩

end Listing

end Devirt
