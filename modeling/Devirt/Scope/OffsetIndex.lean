import Devirt.Scope.Link

/-!
# Instructions by bytecode offset

The links of a method's instructions, turned around: for each bytecode offset the instructions
that are linked to it, in the order of the code. Instructions are known by their positions.
-/

namespace Devirt.Scope

/-- An instruction that was emitted for an offset, by its position in the code. -/
structure Emission where
  position : Nat
  inlined : Bool
deriving DecidableEq, Repr

/-- An offset with its instructions. -/
structure OffsetEntry where
  offset : UInt32
  emissions : List Emission
deriving DecidableEq, Repr

/-- The entries of a method, ascending by offset. -/
abbrev OffsetIndex := List OffsetEntry

namespace OffsetIndex

/-- The index with an emission more at the end of its offset's list. -/
def add (index : OffsetIndex) (offset : UInt32) (emission : Emission) : OffsetIndex :=
  insertAscending OffsetEntry.offset
    (fun older newer => { older with emissions := older.emissions ++ newer.emissions })
    ⟨offset, [emission]⟩ index

/-- The index with the links of the instruction at a position. -/
def addLinks (index : OffsetIndex) (position : Nat) (links : List Link) : OffsetIndex :=
  links.foldl (fun index link => index.add link.offset ⟨position, link.inlined⟩) index

/-- The index of a method's instructions. -/
def ofInstructions (member : Member) (instructions : List Instruction) : OffsetIndex :=
  instructions.zipIdx.foldl
    (fun index (instruction, position) => index.addLinks position (links member instruction)) []

/-- The instructions of an offset, if it has any. -/
def find? (index : OffsetIndex) (offset : UInt32) : Option (List Emission) :=
  (List.find? (fun entry => entry.offset == offset) index).map (·.emissions)

end OffsetIndex

end Devirt.Scope
