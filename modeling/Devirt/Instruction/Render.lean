import Devirt.Instruction.Basic

/-!
# Instructions as text

An instruction takes one row for each comment line, and one row if it has none. The first row
holds the label in its column, the address, the instruction itself and the first comment line;
every other comment line stands on a row of its own beneath the first. `render` gives all rows
at once and `renderLine` one of them.

Widths count characters, so a column lines up for labels in any script. Padding never cuts: a text
wider than its column keeps all its characters and pushes what follows to the right.
-/

namespace Devirt

namespace Text

/-- A run of spaces. -/
def spaces (count : Nat) : String := String.ofList (List.replicate count ' ')

/-- The text, filled with spaces on the right up to the width. -/
def alignLeft (width : Nat) (text : String) : String := text ++ spaces (width - text.length)

/-- A run of spaces has the width asked for. -/
theorem length_spaces (count : Nat) : (spaces count).length = count := by
  simp [spaces]

/-- Aligning fills the column, and widens it only for a text that does not fit. -/
theorem length_alignLeft (width : Nat) (text : String) :
    (alignLeft width text).length = max width text.length := by
  simp [alignLeft, length_spaces]
  omega

end Text

namespace Instruction

/-- The space between the instruction and its comment lines. -/
def commentGap : String := "  "

/-- The modifier with the space behind it. -/
def modifierText (instruction : Instruction) : String :=
  match instruction.modifier with
  | none => ""
  | some modifier => modifier ++ " "

/-- The operands with the space in front of them. -/
def operandText (instruction : Instruction) : String :=
  if instruction.operands = [] then "" else " " ++ ", ".intercalate instruction.operands

/-- The first row without its comment line. The label's column has the given width. -/
def head (width : Nat) (instruction : Instruction) : String :=
  Text.alignLeft width (instruction.label.getD "") ++ Address.text instruction.address ++ ": " ++
    instruction.modifierText ++ instruction.mnemonic ++ instruction.operandText

/-- The blanks in front of a comment line beneath the first row. -/
def indent (width : Nat) (instruction : Instruction) : String :=
  Text.spaces ((instruction.head width).length + commentGap.length)

/-- All rows, with line feeds between them and no blanks behind the last. -/
def render (width : Nat) (instruction : Instruction) : String :=
  match instruction.comments with
  | [] => Text.trimmedEnd (instruction.head width)
  | first :: rest =>
    let beneath := rest.map fun comment => "\n" ++ instruction.indent width ++ comment.text
    Text.trimmedEnd (instruction.head width ++ commentGap ++ first.text ++ String.join beneath)

/-- The number of rows. -/
def rowCount (instruction : Instruction) : Nat := max instruction.comments.length 1

/-- One row, without blanks behind it: row zero is the instruction with its first comment line,
row `n` the comment line number `n` alone. An instruction without comment lines has the same
text for every row; any other has no row behind its last comment line. -/
def renderLine (width : Nat) (row : Nat) (instruction : Instruction) : Option String :=
  match instruction.comments with
  | [] => some (Text.trimmedEnd (instruction.head width))
  | first :: rest =>
    match row with
    | 0 => some (Text.trimmedEnd (instruction.head width ++ commentGap ++ first.text))
    | row + 1 =>
      rest[row]?.map fun comment => Text.trimmedEnd (instruction.indent width ++ comment.text)

end Instruction

end Devirt
