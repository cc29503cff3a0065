import Devirt.Text.Basic
import Devirt.Text.Line

/-!
# Operand lists

Operands are separated by commas, but a comma inside round or square brackets belongs to its
operand, as in an address with base, index and scale. The brackets are counted from the start
of the text: a comma separates where no more have been opened than closed. The count is not
checked, so it may fall below zero. Operands lose the blanks at their ends, and empty ones are
left out.
-/

namespace Devirt.Assembly

/-- How a character changes the number of open brackets. -/
def bracketStep (c : Char) : Int :=
  if c = '(' ∨ c = '[' then 1 else if c = ')' ∨ c = ']' then -1 else 0

/-- The stretches between separating commas, when `depth` brackets are open at the start. The count
has no bound here. A count of 32 bits is assumed to be enough: fewer than 2^31 brackets are open at
a time, or closed beyond those that were opened. -/
def cutOperands (depth : Int) : List Char → List (List Char)
  | [] => [[]]
  | c :: cs =>
    if c = ',' ∧ depth ≤ 0 then [] :: cutOperands depth cs
    else consFirst c (cutOperands (depth + bracketStep c) cs)

/-- The operands written in a text. -/
def operands (cs : List Char) : List (List Char) :=
  ((cutOperands 0 cs).map Text.trim).filter (· ≠ [])

/-- The operands written in a string. -/
def splitOperands (text : String) : List String := (operands text.toList).map String.ofList

end Devirt.Assembly
