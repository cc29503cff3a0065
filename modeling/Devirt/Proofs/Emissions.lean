import Mathlib.Data.List.Basic
import Devirt.Detection.Detector
import Devirt.Proofs.Ascending

/-!
# What was emitted for an offset

The index of a method's instructions holds under each bytecode offset the positions of the
instructions that are linked to the offset, in the order of the code. So the instructions that
are read off at these positions are a sublist of the code: those that are linked to the offset,
or those of them whose link is direct.

How a label and the scope lines make the links of one instruction has no part in this. All that
counts is that links ascend strictly by offset.
-/

namespace Devirt

namespace Scope

/-- Two links to an offset become a link to that offset. -/
@[simp] theorem Link.combine_offset (a b : Link) : (a.combine b).offset = a.offset := rfl

/-- The links of an instruction ascend strictly, so there is at most one to an offset. -/
theorem pairwise_links (member : Member) (instruction : Instruction) :
    (links member instruction).Pairwise (·.offset < ·.offset) := by
  rw [links, List.foldr_eq_foldl_reverse]
  exact pairwise_insertAll Link.offset Link.combine_offset _ List.Pairwise.nil

/-- How an instruction is linked to an offset: whether inlined, if it is linked at all. -/
def linkedAt? (member : Member) (offset : UInt32) (instruction : Instruction) : Option Bool :=
  ((links member instruction).find? (·.offset == offset)).map (·.inlined)

/-- An instruction is linked to an offset as one of its links says. -/
theorem linkedAt?_eq_some_iff {member : Member} {offset : UInt32} {instruction : Instruction}
    {inlined : Bool} :
    linkedAt? member offset instruction = some inlined ↔
      ⟨offset, inlined⟩ ∈ links member instruction := by
  rw [linkedAt?, Option.map_eq_some_iff]
  simp only [find?_eq_some_iff_mem (pairwise_links member instruction)]
  apply Iff.intro
  · intro parts
    obtain ⟨link, ⟨mem, sameOffset⟩, sameKind⟩ := parts
    subst sameOffset sameKind
    exact mem
  · intro mem
    exact ⟨_, ⟨mem, rfl⟩, rfl⟩

/-- Two entries of one offset as one entry, the emissions of the older one first. -/
def OffsetEntry.combine (older newer : OffsetEntry) : OffsetEntry :=
  { older with emissions := older.emissions ++ newer.emissions }

/-- Two entries of an offset become an entry of that offset. -/
@[simp] theorem OffsetEntry.combine_offset (older newer : OffsetEntry) :
    (older.combine newer).offset = older.offset := rfl

namespace OffsetIndex

/-- The emissions that an offset has: the linked instructions, in the order of the code. -/
def emissionsAt (member : Member) (instructions : List Instruction) (offset : UInt32) :
    List Emission :=
  instructions.zipIdx.filterMap fun (instruction, position) =>
    (linkedAt? member offset instruction).map (Emission.mk position)

/-- The entries that are added to an index, one for every link of every instruction. -/
def additions (member : Member) (instructions : List Instruction) : List OffsetEntry :=
  instructions.zipIdx.flatMap fun (instruction, position) =>
    (links member instruction).map fun link => ⟨link.offset, [⟨position, link.inlined⟩]⟩

/-- An index is built by inserting these entries one after the other. -/
theorem ofInstructions_eq_insertAll (member : Member) (instructions : List Instruction) :
    ofInstructions member instructions =
      insertAll OffsetEntry.offset OffsetEntry.combine (additions member instructions) [] := by
  simp only [ofInstructions, addLinks, add, insertAll, additions, List.foldl_flatMap,
    List.foldl_map]
  rfl

/-- The additions under an offset hold its emissions. -/
theorem flatMap_additions (member : Member) (instructions : List Instruction) (offset : UInt32) :
    ((additions member instructions).filter (·.offset == offset)).flatMap (·.emissions) =
      emissionsAt member instructions offset := by
  have own (instruction : Instruction) (position : Nat) :
      (((links member instruction).map fun link =>
          (⟨link.offset, [⟨position, link.inlined⟩]⟩ : OffsetEntry)).filter
            (·.offset == offset)).flatMap (·.emissions) =
        ((linkedAt? member offset instruction).map (Emission.mk position)).toList := by
    rw [List.filter_map, List.flatMap_map]
    simp only [Function.comp_def]
    rw [filter_eq_toList_find? (pairwise_links member instruction), linkedAt?]
    cases (links member instruction).find? (·.offset == offset) <;> simp
  rw [additions, List.filter_flatMap, List.flatMap_assoc, emissionsAt,
    List.filterMap_eq_flatMap_toList]
  simp only [own]

/-- Entries combined one after the other hold all their emissions. -/
theorem map_emissions_foldl (entries : List OffsetEntry) :
    (entries.foldl (fun found entry => some (found.elim entry (OffsetEntry.combine · entry)))
        none).map (·.emissions) =
      if entries = [] then none else some (entries.flatMap (·.emissions)) := by
  have behind (first : OffsetEntry) (rest : List OffsetEntry) :
      (rest.foldl (fun found entry => some (found.elim entry (OffsetEntry.combine · entry)))
          (some first)).map (·.emissions) =
        some (first.emissions ++ rest.flatMap (·.emissions)) := by
    induction rest generalizing first with
    | nil => simp
    | cons entry rest ih =>
      simpa [OffsetEntry.combine] using ih (first.combine entry)
  cases entries with
  | nil => rfl
  | cons first rest => simpa using behind first rest

/-- An index finds the emissions of an offset, and nothing if it has none. -/
theorem find?_ofInstructions (member : Member) (instructions : List Instruction)
    (offset : UInt32) :
    (ofInstructions member instructions).find? offset =
      if emissionsAt member instructions offset = [] then none
      else some (emissionsAt member instructions offset) := by
  have empty_iff : (additions member instructions).filter (·.offset == offset) = [] ↔
      emissionsAt member instructions offset = [] := by
    rw [← flatMap_additions, List.flatMap_eq_nil_iff]
    apply Iff.intro
    · intro empty
      simp [empty]
    · intro hollow
      refine List.eq_nil_iff_forall_not_mem.mpr fun entry mem => ?_
      obtain ⟨_, _, added⟩ := List.mem_flatMap.mp (List.mem_of_mem_filter mem)
      obtain ⟨link, _, rfl⟩ := List.mem_map.mp added
      exact List.cons_ne_nil _ _ (hollow _ mem)
  rw [find?, ofInstructions_eq_insertAll,
    find?_insertAll OffsetEntry.combine_offset _ List.Pairwise.nil, List.find?_nil,
    map_emissions_foldl, flatMap_additions]
  simp only [empty_iff]

end OffsetIndex

end Scope

namespace Detection

open Scope (linkedAt?)
open Scope.OffsetIndex (emissionsAt)

/-- The instructions at the emissions of an offset are a part of the code: those whose link to
the offset is asked for. -/
theorem emitted_filter_emissionsAt (method : Method) (offset : UInt32) (asked : Bool → Bool) :
    emitted method ((emissionsAt method.member method.instructions offset).filter
        (asked ·.inlined)) =
      method.instructions.filter fun instruction =>
        (linkedAt? method.member offset instruction).any asked := by
  have stands (entry : Instruction × Nat) (mem : entry ∈ method.instructions.zipIdx) :
      ((linkedAt? method.member offset entry.1).map (Scope.Emission.mk entry.2)).bind
          (fun emission => if asked emission.inlined then method.instructions[emission.position]?
            else none) =
        Option.guard (fun instruction => (linkedAt? method.member offset instruction).any asked)
          entry.1 := by
    -- The index keeps positions of this very code, so no lookup fails.
    have there : method.instructions[entry.2]? = some entry.1 :=
      List.mem_zipIdx_iff_getElem?.mp mem
    cases linked : linkedAt? method.member offset entry.1 <;> simp [Option.guard, linked, there]
  rw [emitted, emissionsAt, List.filterMap_filter, List.filterMap_filterMap,
    List.filterMap_congr stands, ← List.filterMap_eq_filter]
  conv_rhs => rw [← List.zipIdx_map_fst 0 method.instructions, List.filterMap_map]
  rfl

end Detection

end Devirt
