import Mathlib.Data.List.Perm.Basic
import Devirt.Proofs.Emissions

/-!
# The index of a method's instructions is its links turned around

An instruction stands in the entry of an offset exactly when one of its links is to the offset, and
it stands there as that link says. No entry is empty, none holds an instruction twice, and all of
them keep the order of the code. There is only one such index, so nothing is lost when links are
looked up by offset instead of by instruction.

Code behind other code does not disturb the entries of that code. Its own instructions come behind
them, at positions that count the instructions in front.
-/

namespace Devirt

namespace Scope

/-- The emission at a position that counts further instructions in front. -/
def Emission.behind (count : Nat) (emission : Emission) : Emission :=
  { emission with position := emission.position + count }

namespace OffsetIndex

variable {index other : OffsetIndex} {member : Member} {instructions : List Instruction}
  {offset : UInt32} {position : Nat} {inlined : Bool}

/-- An emission of an offset is a link of the instruction at its position. -/
theorem mem_emissionsAt :
    ⟨position, inlined⟩ ∈ emissionsAt member instructions offset ↔
      ∃ instruction, instructions[position]? = some instruction ∧
        ⟨offset, inlined⟩ ∈ links member instruction := by
  simp only [emissionsAt, List.mem_filterMap, Prod.exists, List.mk_mem_zipIdx_iff_getElem?,
    Option.map_eq_some_iff, linkedAt?_eq_some_iff, Emission.mk.injEq]
  apply Iff.intro
  · intro parts
    obtain ⟨instruction, _, stands, _, linked, rfl, rfl⟩ := parts
    exact ⟨instruction, stands, linked⟩
  · intro parts
    obtain ⟨instruction, stands, linked⟩ := parts
    exact ⟨instruction, position, stands, inlined, linked, rfl, rfl⟩

/-- The emissions of an offset are in the order of the code. -/
theorem pairwise_emissionsAt (member : Member) (instructions : List Instruction)
    (offset : UInt32) :
    (emissionsAt member instructions offset).Pairwise (·.position < ·.position) := by
  have positions : instructions.zipIdx.Pairwise (·.2 < ·.2) := by
    rw [← List.pairwise_map (R := (· < ·)), List.zipIdx_map_snd]
    exact List.pairwise_lt_range'
  refine positions.filterMap _ fun first second before a made b alsoMade => ?_
  obtain ⟨_, _, rfl⟩ := Option.map_eq_some_iff.mp made
  obtain ⟨_, _, rfl⟩ := Option.map_eq_some_iff.mp alsoMade
  exact before

/-- The emissions of further code come behind, and count the code in front. -/
theorem emissionsAt_append (member : Member) (first second : List Instruction)
    (offset : UInt32) :
    emissionsAt member (first ++ second) offset = emissionsAt member first offset ++
      (emissionsAt member second offset).map (Emission.behind first.length) := by
  have moved : second.zipIdx (0 + first.length) =
      second.zipIdx.map (Prod.map id (· + first.length)) := by
    rw [List.map_snd_add_zipIdx_eq_zipIdx, Nat.add_zero, Nat.zero_add]
  rw [emissionsAt, List.zipIdx_append, List.filterMap_append, moved, List.filterMap_map,
    emissionsAt, emissionsAt, List.map_filterMap]
  congr 2
  funext entry
  obtain ⟨instruction, position⟩ := entry
  rw [Function.comp_apply, Prod.map_apply, Option.map_map]
  rfl

/-- The index has one entry for each offset that an instruction is linked to. The entry holds every
instruction that is linked to the offset once, in the order of the code. -/
structure Inverts (index : OffsetIndex) (member : Member) (instructions : List Instruction) :
    Prop where
  ascending : index.Pairwise (·.offset < ·.offset)
  nonempty : ∀ entry ∈ index, entry.emissions ≠ []
  inOrder : ∀ entry ∈ index, entry.emissions.Pairwise (·.position < ·.position)
  mem_iff : ∀ offset position inlined,
    (∃ emissions, index.find? offset = some emissions ∧ ⟨position, inlined⟩ ∈ emissions) ↔
      ∃ instruction, instructions[position]? = some instruction ∧
        ⟨offset, inlined⟩ ∈ links member instruction

/-- In an ascending index an offset's emissions are those of its entry. -/
theorem find?_eq_some_iff (ascending : index.Pairwise (·.offset < ·.offset))
    {emissions : List Emission} :
    index.find? offset = some emissions ↔ ⟨offset, emissions⟩ ∈ index := by
  simp only [find?, Option.map_eq_some_iff, find?_eq_some_iff_mem ascending]
  apply Iff.intro
  · intro parts
    obtain ⟨entry, ⟨mem, rfl⟩, rfl⟩ := parts
    exact mem
  · intro mem
    exact ⟨_, ⟨mem, rfl⟩, rfl⟩

/-- The index of a method's instructions ascends by offset. -/
theorem pairwise_ofInstructions (member : Member) (instructions : List Instruction) :
    (ofInstructions member instructions).Pairwise (·.offset < ·.offset) := by
  rw [ofInstructions_eq_insertAll]
  exact pairwise_insertAll _ OffsetEntry.combine_offset _ List.Pairwise.nil

/-- An entry of the index of a method's instructions holds the emissions of its offset, and there
are some. -/
theorem emissions_of_mem {entry : OffsetEntry} (mem : entry ∈ ofInstructions member instructions) :
    entry.emissions ≠ [] ∧ entry.emissions = emissionsAt member instructions entry.offset := by
  have found := (find?_eq_some_iff (pairwise_ofInstructions member instructions)).mpr mem
  rw [find?_ofInstructions] at found
  split_ifs at found with empty
  have same := Option.some.inj found
  exact ⟨same ▸ empty, same.symm⟩

/-- The index of a method's instructions is their links turned around. -/
theorem inverts_ofInstructions (member : Member) (instructions : List Instruction) :
    (ofInstructions member instructions).Inverts member instructions where
  ascending := pairwise_ofInstructions member instructions
  nonempty _ mem := (emissions_of_mem mem).1
  inOrder entry mem := by
    rw [(emissions_of_mem mem).2]
    exact pairwise_emissionsAt member instructions entry.offset
  mem_iff offset position inlined := by
    rw [← mem_emissionsAt, find?_ofInstructions]
    split_ifs with empty
    · simp [empty]
    · simp

/-- A call, code of a callee that was inlined at the call, and a call behind it. -/
example :
    ofInstructions ⟨"org.example.Canvas", "paint", "()V"⟩ [
        { label := some "@5", address := 16, mnemonic := "call" },
        { address := 24, mnemonic := "mov", comments := [
          Comment.ofText "; - org.example.Shape::area@1",
          Comment.ofText "; - org.example.Canvas::paint@5"] },
        { address := 32, mnemonic := "call", comments := [
          Comment.ofText "; - org.example.Canvas::paint@8"] }] =
      [⟨5, [⟨0, false⟩, ⟨1, true⟩]⟩, ⟨8, [⟨2, false⟩]⟩] := by
  decide +kernel

/-- Of two indexes that turn the links around, one has no entry that the other has not. -/
theorem Inverts.subset (inverts : index.Inverts member instructions)
    (alsoInverts : other.Inverts member instructions) : index ⊆ other := by
  intro entry mem
  obtain ⟨emission, emitted⟩ := List.exists_mem_of_ne_nil _ (inverts.nonempty entry mem)
  have found := (find?_eq_some_iff inverts.ascending).mpr mem
  obtain ⟨emissions, alsoFound, _⟩ := (alsoInverts.mem_iff entry.offset _ _).mpr
    ((inverts.mem_iff entry.offset _ _).mp ⟨_, found, emitted⟩)
  have alsoMem := (find?_eq_some_iff alsoInverts.ascending).mp alsoFound
  have same : entry.emissions = emissions := by
    refine eq_of_ascending_of_mem_iff (inverts.inOrder entry mem)
      (alsoInverts.inOrder _ alsoMem) fun emission => ?_
    have linked := inverts.mem_iff entry.offset emission.position emission.inlined
    rw [← alsoInverts.mem_iff, found, alsoFound] at linked
    simpa using linked
  rw [← same] at alsoMem
  exact alsoMem

/-- Only one index turns the links around. -/
theorem Inverts.unique (inverts : index.Inverts member instructions)
    (alsoInverts : other.Inverts member instructions) : index = other :=
  eq_of_ascending_of_mem_iff inverts.ascending alsoInverts.ascending fun _ =>
    ⟨fun mem => inverts.subset alsoInverts mem, fun mem => alsoInverts.subset inverts mem⟩

/-- The emissions that an index finds in two pieces of code are those found in the first piece, and
behind them those found in the second. -/
theorem find?_ofInstructions_append (member : Member) (first second : List Instruction)
    (offset : UInt32) :
    (ofInstructions member (first ++ second)).find? offset =
      Option.merge (· ++ ·) ((ofInstructions member first).find? offset)
        (((ofInstructions member second).find? offset).map
          (List.map (Emission.behind first.length))) := by
  rw [find?_ofInstructions, find?_ofInstructions, find?_ofInstructions, emissionsAt_append]
  by_cases front : emissionsAt member first offset = [] <;>
    by_cases back : emissionsAt member second offset = [] <;> simp [front, back]

/-- The index of a method's instructions is the only one in which the entry of an offset holds,
exactly once and in the order of the code, each instruction with a link to the offset, together with
the kind of that link, and no entry is empty. In the index of two pieces of code each entry is that
of the first piece, followed by that of the second with the first piece's instructions counted. -/
theorem index_is_links_inverted :
    (∀ (member : Member) (instructions : List Instruction) (index : OffsetIndex),
      index.Inverts member instructions ↔ index = ofInstructions member instructions) ∧
    ∀ (member : Member) (first second : List Instruction) (offset : UInt32),
      (ofInstructions member (first ++ second)).find? offset =
        Option.merge (· ++ ·) ((ofInstructions member first).find? offset)
          (((ofInstructions member second).find? offset).map
            (List.map (Emission.behind first.length))) := by
  refine ⟨fun member instructions index => ?_, find?_ofInstructions_append⟩
  have inverts := inverts_ofInstructions member instructions
  exact ⟨fun alsoInverts => alsoInverts.unique inverts, fun same => same ▸ inverts⟩

end OffsetIndex

end Scope

end Devirt
