import Devirt.Instruction.Basic
import Devirt.Text.Numeral

/-!
# Lines of assembly text

What a line of disassembly is: blank, a comment line, a label in square brackets, an
instruction, or something else. An instruction line may start with one word in front of the
address. A line that can be read with and without such a word is read with it, so a line of two
addresses has the first as its label.
-/

namespace Devirt.Assembly

/-- An instruction line, cut at its address: the word in front of it, its hexadecimal digits
and all that stands behind its colon. -/
structure InstructionLine where
  label : Option (List Char)
  digits : List Char
  body : List Char
deriving DecidableEq, Repr

/-- The digits of the address that a text starts with, and the text behind its colon. -/
def readAddress? : List Char → Option (List Char × List Char)
  | '0' :: 'x' :: cs =>
    match cs.dropWhile Text.isHexDigit with
    | ':' :: body =>
      let digits := cs.takeWhile Text.isHexDigit
      if digits = [] then none else some (digits, body)
    | _ => none
  | _ => none

/-- The reading of an instruction line with a word in front of the address. -/
def readLabelled? (cs : List Char) : Option InstructionLine :=
  let word := cs.takeWhile (!Text.isBlank ·)
  let behind := cs.dropWhile (!Text.isBlank ·)
  if word = [] ∨ behind = [] then none
  else (readAddress? (Text.trimStart behind)).map fun (digits, body) => ⟨some word, digits, body⟩

/-- The reading of an instruction line that starts with the address. -/
def readUnlabelled? (cs : List Char) : Option InstructionLine :=
  (readAddress? cs).map fun (digits, body) => ⟨none, digits, body⟩

/-- The reading of an instruction line. -/
def InstructionLine.ofText? (cs : List Char) : Option InstructionLine :=
  let text := Text.trimStart cs
  (readLabelled? text).orElse fun _ => readUnlabelled? text

/-- The text inside the brackets of a label line. -/
def readLabel? (cs : List Char) : Option (List Char) :=
  match Text.trimStart cs with
  | '[' :: rest =>
    let inside := rest.takeWhile (· ≠ ']')
    match rest.dropWhile (· ≠ ']') with
    | ']' :: behind => if inside ≠ [] ∧ behind.all Text.isBlank then some inside else none
    | _ => none
  | _ => none

/-- A line of assembly text. -/
inductive Line
  | blank
  | comment (comment : Comment)
  | label (inside : List Char)
  | instruction (line : InstructionLine)
  | other
deriving DecidableEq

/-- What a line is: the first of the kinds, in the order of the constructors, that it fits. -/
def Line.ofText (cs : List Char) : Line :=
  match Text.trim cs with
  | [] => .blank
  | ';' :: _ => .comment (Comment.ofText (String.ofList cs))
  | _ =>
    match readLabel? cs with
    | some inside => .label inside
    | none =>
      match InstructionLine.ofText? cs with
      | some line => .instruction line
      | none => .other

end Devirt.Assembly
