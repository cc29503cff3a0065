import Devirt.Assembly.Line
import Devirt.Assembly.Operands
import Devirt.Text.Line

/-!
# Reading assembly text

Reading goes line by line. A label line is kept for the next instruction line, which uses it
up even if it has a label of its own; the own label wins. A comment line belongs to the
instruction before it, and is dropped if there is none. Blank lines and lines of no known kind
are skipped, so headers between methods do no harm. An instruction line whose address does not
fit 64 bits, or that has no mnemonic, is a fault, and the first fault ends the reading.
-/

namespace Devirt.Assembly

/-- An instruction line that cannot be read: its number, counted from one, and its text. -/
structure Fault where
  line : Nat
  text : String
deriving DecidableEq, Repr

/-- What is said about a line that cannot be read. -/
def Fault.message (fault : Fault) : String :=
  "Unparseable assembly line " ++ toString fault.line ++ ": " ++ fault.text

/-- The words that may stand in front of a mnemonic and change what the instruction does. -/
def modifiers : List String :=
  ["lock", "rep", "repe", "repz", "repne", "repnz", "data16", "data32", "addr32", "notrack",
   "bnd", "rex", "rex.w", "rex.r", "rex.x", "rex.b", "rex.wb", "rex.wr", "rex.wrb", "rex.wxb",
   "rex.wrxb", "cs", "ds", "es", "fs", "gs", "ss"]

/-- Whether a word is a modifier. Letters A to Z count as their small forms. -/
def isModifier (word : List Char) : Bool :=
  modifiers.contains (String.ofList (word.map Char.toLower))

/-- The first word of a text. -/
def firstWord (cs : List Char) : List Char := cs.takeWhile (!Text.isBlank ·)

/-- What stands behind the first word, without the blanks at its ends. -/
def behindFirstWord (cs : List Char) : List Char := Text.trim (cs.dropWhile (!Text.isBlank ·))

/-- The modifier, the mnemonic and the text of the operands. A modifier with nothing behind it
is the mnemonic. -/
def readOperation? (cs : List Char) : Option (Option (List Char) × List Char × List Char) :=
  let word := firstWord cs
  let rest := behindFirstWord cs
  if word = [] then none
  else if isModifier word ∧ rest ≠ [] then some (some word, firstWord rest, behindFirstWord rest)
  else some (none, word, rest)

/-- The comment line behind an instruction: what follows the first semicolon, with it. -/
def readComment (body : List Char) : List Comment :=
  match body.dropWhile (· ≠ ';') with
  | [] => []
  | cs => [Comment.ofText (String.ofList cs)]

/-- The instruction on a line. The given label is for a line that has none of its own. -/
def InstructionLine.instruction? (line : InstructionLine) (label : Option String) :
    Option Instruction := do
  let address ← Text.toUInt64? (← Text.readHex? line.digits)
  let (modifier, mnemonic, operandText) ←
    readOperation? (Text.trim (line.body.takeWhile (· ≠ ';')))
  some {
    label := (line.label.map String.ofList).or label
    address
    modifier := modifier.map String.ofList
    mnemonic := String.ofList mnemonic
    operands := (operands operandText).map String.ofList
    comments := readComment line.body }

/-- What has been read so far: the instructions, last first, and the label line that waits
for its instruction. -/
structure Draft where
  instructions : List Instruction := []
  label : Option String := none

/-- The draft with a comment line for its last instruction. -/
def Draft.addComment (draft : Draft) (comment : Comment) : Draft :=
  match draft.instructions with
  | [] => draft
  | last :: before => { draft with instructions := last.addComment comment :: before }

/-- The draft after one line more. -/
def Draft.addLine (draft : Draft) (number : Nat) (text : List Char) : Except Fault Draft :=
  match Line.ofText text with
  | .blank | .other => .ok draft
  | .comment comment => .ok (draft.addComment comment)
  | .label inside => .ok { draft with label := some (String.ofList ('[' :: inside ++ [']'])) }
  | .instruction line =>
    match line.instruction? draft.label with
    | some instruction => .ok { instructions := instruction :: draft.instructions }
    | none => .error ⟨number, String.ofList text⟩

/-- The draft after the lines, the first of which has the given number. -/
def Draft.addLines (draft : Draft) (number : Nat) : List (List Char) → Except Fault Draft
  | [] => .ok draft
  | text :: rest => do (← draft.addLine number text).addLines (number + 1) rest

/-- The instructions written in a text. -/
def parse (text : String) : Except Fault (List Instruction) :=
  (Draft.addLines {} 1 (Text.lines text.toList)).map (·.instructions.reverse)

end Devirt.Assembly
