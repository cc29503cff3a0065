import Devirt.Instruction.Basic
import Devirt.Scope.Frame
import Devirt.Text.Basic
import Devirt.Text.Lowercase

/-!
# Marks of optimization in comment lines

What the compiler remarks about an instruction shows whether a call was optimized. A remark is
a comment line that is neither a line of bytecode nor a scope line, since those two hold names
from the program, which could look like anything. Marks are looked for in the lowercase form of
a remark.
-/

namespace Devirt

namespace Comment

/-- Whether the comment line quotes bytecode: an asterisk stands behind its semicolons. -/
def isBytecode (comment : Comment) : Bool :=
  (Text.trimStart (comment.text.toList.dropWhile (· = ';'))).head? == some '*'

/-- Whether the comment line is a remark of the compiler. -/
def isRemark (comment : Comment) : Bool :=
  !comment.isBytecode && (Scope.Frame.ofLine? comment.text).isNone

end Comment

/-- The compiler's remarks about an instruction, in lowercase. -/
def Instruction.remarks (instruction : Instruction) : List String :=
  (instruction.comments.filter Comment.isRemark).map fun comment => Text.lowercased comment.text

namespace Detection

/-- A text that shows that a call was optimized, and its lowercase form, which is looked for. -/
structure Marker where
  text : String
  needle : String
deriving DecidableEq, Repr

/-- The marker of a text. -/
def Marker.ofText (text : String) : Marker := ⟨text, Text.lowercased text⟩

/-- The markers that are always looked for, in this order. -/
def builtinMarkers : List Marker :=
  ["optimized virtual_call", "inlined, no dispatch", "type check eliminated",
   "null check eliminated", "direct call", "monomorphic", "inline (hot)"].map Marker.ofText

/-- The texts that show that the call selects its target while the program runs. -/
def dispatchNeedles : List String := ["\x7bvirtual_call\x7d", "vtable", "itable"]

/-- The first of the markers that occurs in a remark. -/
def markerIn? (markers : List Marker) (remark : String) : Option Marker :=
  markers.find? fun marker => Text.contains remark marker.needle

/-- Whether a remark shows that the call selects its target while the program runs. -/
def showsDispatch (remark : String) : Bool :=
  dispatchNeedles.any fun needle => Text.contains remark needle

end Detection

end Devirt
