import Devirt.Instruction.Render

/-!
# Listings

The instructions of a method one beneath the other. Labels share one column, wide enough for
the widest of them and a space, so all addresses start at the same place; without labels there
is no column. `rows` says for each row which instruction it belongs to, `text` is all of it.
-/

namespace Devirt.Listing

/-- The width of the label column. -/
def width (instructions : List Instruction) : Nat :=
  match (instructions.filterMap (·.label)).map String.length |>.max? with
  | none => 0
  | some widest => widest + 1

/-- A row of a listing and the number of its instruction, counted from zero. -/
structure Row where
  instruction : Nat
  text : String
deriving DecidableEq, Repr

/-- The rows of one instruction. -/
def instructionRows (width : Nat) (index : Nat) (instruction : Instruction) : List Row :=
  (List.range instruction.rowCount).filterMap fun row =>
    (instruction.renderLine width row).map (Row.mk index)

/-- Every row of the listing, in order. -/
def rows (instructions : List Instruction) : List Row :=
  instructions.zipIdx.flatMap fun (instruction, index) =>
    instructionRows (width instructions) index instruction

/-- The listing, with line feeds between rows. -/
def text (instructions : List Instruction) : String :=
  "\n".intercalate (instructions.map (Instruction.render (width instructions)))

end Devirt.Listing
