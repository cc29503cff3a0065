import Devirt.Text.Basic
import Devirt.Text.Numeral

/-!
# Native instructions

One disassembled instruction with the comment lines attached to it. A comment line never has
blanks at its ends: trimming is part of making one. An address is a 64-bit word; listings and
reports write all its sixteen hexadecimal digits.
-/

namespace Devirt

/-- The place of an instruction in native memory. -/
abbrev Address := UInt64

/-- The address with all sixteen digits, as listings and reports write it. -/
def Address.text (address : Address) : String :=
  String.ofList ('0' :: 'x' :: Text.hexPadded 16 address.toNat)

/-- The address without leading zeros. -/
def Address.shortText (address : Address) : String :=
  String.ofList ('0' :: 'x' :: Text.hex address.toNat)

/-- A comment line: text without blanks at its ends. -/
structure Comment where
  text : String
  trimmed : Text.trimmed text = text
deriving DecidableEq

namespace Comment

/-- The comment line with this text, less the blanks at its ends. -/
def ofText (text : String) : Comment := ⟨Text.trimmed text, Text.trimmed_trimmed text⟩

/-- The comment line with the text of another is that comment line. -/
theorem ofText_text (comment : Comment) : ofText comment.text = comment := by
  obtain ⟨text, trimmed⟩ := comment
  simp [ofText, trimmed]

/-- Comment lines with one text are equal. -/
theorem ext_text {a b : Comment} (h : a.text = b.text) : a = b := by
  cases a
  cases b
  simp_all

end Comment

/-- A native instruction. The label stands in front of the address in a listing; the modifier
is an instruction byte such as a lock, spelled in front of the mnemonic. -/
structure Instruction where
  label : Option String := none
  address : Address
  modifier : Option String := none
  mnemonic : String
  operands : List String := []
  comments : List Comment := []
deriving DecidableEq

namespace Instruction

/-- The instruction with a comment line more. -/
def addComment (instruction : Instruction) (comment : Comment) : Instruction :=
  { instruction with comments := instruction.comments ++ [comment] }

/-- The instruction with a comment line for each text, behind those it has. -/
def addTexts (instruction : Instruction) (texts : List String) : Instruction :=
  { instruction with comments := instruction.comments ++ texts.map Comment.ofText }

end Instruction

end Devirt
