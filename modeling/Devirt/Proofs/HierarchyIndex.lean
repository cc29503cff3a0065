import Mathlib.Data.List.Perm.Basic
import Devirt.Proofs.Ascending
import Devirt.Proofs.Receivers

/-!
# Answers of a hierarchy and the order of registration

The indices of a hierarchy list direct links in the order in which types were registered. What
the hierarchy answers does not depend on that order: it asks an index whether anything is there,
or whether exactly one entry is there. So two lists of types that register the same type under
every name give the same answers, in whatever order they come.

A class that lists an interface twice is there twice, so it matters how often a link is there,
and membership alone does not carry the argument.
-/

namespace Devirt.TypeHierarchy

variable {hierarchy : TypeHierarchy} {info : TypeInfo}

/-- No name is registered twice, and the indices hold each link of the registered types as often
as it is declared, in the order of registration. -/
structure Indexed (hierarchy : TypeHierarchy) : Prop where
  distinct : (hierarchy.types.map (·.name)).Nodup
  subclasses : ∀ above, hierarchy.directSubclasses above = hierarchy.types.flatMap fun info =>
    if info.isInterface then [] else List.replicate (info.superclass.toList.count above) info.name
  implementors : ∀ above, hierarchy.directImplementors above = hierarchy.types.flatMap fun info =>
    if info.isInterface then [] else List.replicate (info.interfaces.count above) info.name
  subinterfaces : ∀ above, hierarchy.directSubinterfaces above = hierarchy.types.flatMap fun info =>
    if info.isInterface then List.replicate (info.interfaces.count above) info.name else []

/-- A registration more keeps the indices in order. -/
theorem Indexed.add (indexed : hierarchy.Indexed) (info : TypeInfo) :
    (hierarchy.add info).Indexed := by
  cases known : hierarchy.get? info.name with
  | some first =>
    rw [add_of_known known]
    exact indexed
  | none =>
    have types := types_add known
    have fresh : info.name ∉ hierarchy.types.map (·.name) := by
      simpa [get?] using known
    constructor
    case distinct =>
      rw [types, List.map_append, List.map_singleton]
      exact indexed.distinct.append (List.nodup_singleton _) (by simpa using fresh)
    case subclasses =>
      intro above
      rw [types, List.flatMap_append, ← indexed.subclasses, List.flatMap_singleton,
        TypeHierarchy.add, known]
      cases info.isInterface <;> simp [directSubclasses, names_addUnder]
    case implementors =>
      intro above
      rw [types, List.flatMap_append, ← indexed.implementors, List.flatMap_singleton,
        TypeHierarchy.add, known]
      cases info.isInterface <;> simp [directImplementors, names_addUnder]
    case subinterfaces =>
      intro above
      rw [types, List.flatMap_append, ← indexed.subinterfaces, List.flatMap_singleton,
        TypeHierarchy.add, known]
      cases info.isInterface <;> simp [directSubinterfaces, names_addUnder]

/-- Whatever is registered, the indices are in order. -/
theorem indexed_ofList (types : List TypeInfo) : (ofList types).Indexed := by
  induction types using List.reverseRecOn with
  | nil => constructor <;> simp [ofList, directSubclasses, directImplementors,
      directSubinterfaces, NameIndex.names, NameIndex.namesUnder]
  | append_singleton types info ih =>
    rw [ofList, List.foldl_append]
    exact ih.add info

/-- The types of a hierarchy are those that are registered. -/
theorem mem_types_ofList {types : List TypeInfo} :
    info ∈ (ofList types).types ↔ Registered types info := by
  rw [Registered, ← (describes_ofList types).found, get?,
    find?_eq_some_iff_mem_of_nodup (indexed_ofList types).distinct, and_iff_left rfl]

section SameRegistrations

variable {first second : List TypeInfo}
  (same : ∀ name, first.find? (·.name == name) = second.find? (·.name == name))
include same

/-- Lists that register the same types give hierarchies of the same types. -/
theorem types_ofList_perm : (ofList first).types.Perm (ofList second).types := by
  refine (List.perm_ext_iff_of_nodup (indexed_ofList first).distinct.of_map
    (indexed_ofList second).distinct.of_map).mpr fun info => ?_
  rw [mem_types_ofList, mem_types_ofList, Registered, Registered, same]

/-- The same classes are directly beneath a class. -/
theorem directSubclasses_ofList_perm (above : String) :
    ((ofList first).directSubclasses above).Perm ((ofList second).directSubclasses above) := by
  rw [(indexed_ofList first).subclasses, (indexed_ofList second).subclasses]
  exact (types_ofList_perm same).flatMap_right _

/-- The same classes are directly beneath an interface, each as often. -/
theorem directImplementors_ofList_perm (above : String) :
    ((ofList first).directImplementors above).Perm
      ((ofList second).directImplementors above) := by
  rw [(indexed_ofList first).implementors, (indexed_ofList second).implementors]
  exact (types_ofList_perm same).flatMap_right _

/-- The same interfaces are directly beneath an interface. -/
theorem directSubinterfaces_ofList_perm (above : String) :
    ((ofList first).directSubinterfaces above).Perm
      ((ofList second).directSubinterfaces above) := by
  rw [(indexed_ofList first).subinterfaces, (indexed_ofList second).subinterfaces]
  exact (types_ofList_perm same).flatMap_right _

/-- A hierarchy's answers do not depend on the order in which types of different names were
registered. -/
theorem monomorphism?_ofList_congr (target : Member) :
    (ofList first).monomorphism? target = (ofList second).monomorphism? target := by
  have found : (ofList first).get? target.className = (ofList second).get? target.className := by
    rw [(describes_ofList first).found, (describes_ofList second).found, same]
  have leaf (above : String) : (ofList first).directSubclasses above = [] ↔
      (ofList second).directSubclasses above = [] := by
    rw [← List.perm_nil, (directSubclasses_ofList_perm same above).congr_left, List.perm_nil]
  rw [monomorphism?, monomorphism?, found]
  split
  · rfl
  · rename_i info _
    split
    · refine Option.ext fun reason => ?_
      have bottom : (ofList first).directSubinterfaces info.name = [] ↔
          (ofList second).directSubinterfaces info.name = [] := by
        rw [← List.perm_nil, (directSubinterfaces_ofList_perm same _).congr_left, List.perm_nil]
      have single (only : String) : (ofList first).directImplementors info.name = [only] ↔
          (ofList second).directImplementors info.name = [only] := by
        rw [← List.perm_singleton, (directImplementors_ofList_perm same _).congr_left,
          List.perm_singleton]
      rw [interfaceMonomorphism?_eq_some_iff, interfaceMonomorphism?_eq_some_iff]
      simp only [bottom, single, leaf]
    · simp only [classMonomorphism?, leaf]

end SameRegistrations

end Devirt.TypeHierarchy
