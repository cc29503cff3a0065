import Devirt.Member
import Devirt.Text.Basic
import Devirt.Text.CharClass
import Devirt.Text.Numeral

/-!
# Scope frames and bytecode offsets in text

The compiler notes in comment lines which method an instruction was emitted for. A scope line
such as `; - org.example.Canvas::paint@5 (line 12)` names a frame: class, method, bytecode
offset and perhaps the source line. A label such as `@5` names just an offset.

Digits of every script end and fill a run of digits, but only ASCII digits make a number. A
scope line whose offset is not a 32-bit number is no scope line; a source line that is not one
is left out.
-/

namespace Devirt.Scope

/-- A frame of the call stack at an instruction, as a scope line names it. -/
structure Frame where
  className : String
  methodName : String
  offset : UInt32
  sourceLine : Option UInt32
deriving DecidableEq, Repr

/-- Whether a character may stand in the class name of a scope line. -/
def isClassChar (c : Char) : Bool := Text.isWord c || c == '$' || c == '.' || c == '/'

/-- Whether a character may stand in the method name of a scope line. -/
def isMethodChar (c : Char) : Bool := Text.isWord c || c == '$' || c == '<' || c == '>'

/-- The 32-bit number written by a run of digits. -/
def readWord? (digits : List Char) : Option UInt32 :=
  (Text.readDecimal? digits).bind Text.toUInt32?

/-- A nonempty run of characters of a class, as long as possible, and what stands behind it. -/
def readRun? (member : Char → Bool) (cs : List Char) : Option (List Char × List Char) :=
  let run := cs.takeWhile member
  if run = [] then none else some (run, cs.dropWhile member)

/-- What stands behind a given beginning. -/
def readBeginning? : (beginning : List Char) → List Char → Option (List Char)
  | [], cs => some cs
  | _ :: _, [] => none
  | b :: beginning, c :: cs => if b = c then readBeginning? beginning cs else none

/-- The digits of a source line in parentheses that a text starts with, behind blanks. -/
def readSourceLine? (cs : List Char) : Option (List Char) := do
  let (_, cs) ← readRun? Text.isBlank cs
  let cs ← readBeginning? ['(', 'l', 'i', 'n', 'e'] cs
  let (_, cs) ← readRun? Text.isBlank cs
  let (digits, cs) ← readRun? Text.isDecimalDigit cs
  let _ ← readBeginning? [')'] cs
  some digits

/-- The text behind the dash that opens a scope line, with at least one blank between. -/
def readDash? (cs : List Char) : Option (List Char) := do
  let cs := match cs with
    | ';' :: cs => cs
    | cs => cs
  let cs ← readBeginning? ['-'] (Text.trimStart cs)
  let (_, cs) ← readRun? Text.isBlank cs
  some cs

/-- The frame named by a text without blanks at its ends. -/
def readFrame? (cs : List Char) : Option Frame := do
  let cs ← readDash? cs
  let (className, cs) ← readRun? isClassChar cs
  let cs ← readBeginning? [':', ':'] cs
  let (methodName, cs) ← readRun? isMethodChar cs
  let cs ← readBeginning? ['@'] cs
  let (digits, cs) ← readRun? Text.isDecimalDigit cs
  let offset ← readWord? digits
  some ⟨String.ofList className, String.ofList methodName, offset,
    (readSourceLine? cs).bind readWord?⟩

/-- The frame that a line names. -/
def Frame.ofLine? (line : String) : Option Frame := readFrame? (Text.trim line.toList)

/-- Whether the frame is an activation of the member. A class name may be written with slashes
for dots. Scope lines have no descriptors, so overloads are not told apart. -/
def Frame.names (frame : Frame) (member : Member) : Bool :=
  member.name == frame.methodName &&
    member.className.toList == frame.className.toList.map fun c => if c = '/' then '.' else c

/-- Whether a text starts with a run of digits that no word character continues. -/
def startsWithNumber (cs : List Char) : Bool :=
  !(cs.takeWhile Text.isDecimalDigit).isEmpty &&
    !((cs.dropWhile Text.isDecimalDigit).head?.any Text.isWord)

/-- The digits behind the first at sign that a number follows. -/
def markedDigits? : List Char → Option (List Char)
  | [] => none
  | c :: cs =>
    if c = '@' ∧ startsWithNumber cs then some (cs.takeWhile Text.isDecimalDigit)
    else markedDigits? cs

/-- The bytecode offset that a label names. -/
def labelOffset? (label : String) : Option UInt32 := (markedDigits? label.toList).bind readWord?

end Devirt.Scope
