import Mathlib.Data.Finset.Card
import Devirt.Program.Basic
import Devirt.Proofs.HierarchyIndex

/-!
# What a hierarchy holds after any registrations

Of the types that are registered under one name only the first counts, and a hierarchy is an index
of these first ones: it finds each under its name and lists the direct links that they declare, in
the order in which they were registered. A type that comes too late leaves no trace, not even for
what is registered behind it.

The hierarchy of a program registers the classes in the order of the packages and the further
types behind them, so a further type is only found under a name that no class has.
-/

namespace Devirt

/-- The first type of each name, in order. -/
def firstRegistered : List TypeInfo → List TypeInfo
  | [] => []
  | info :: rest => info :: (firstRegistered rest).filter (·.name ≠ info.name)

/-- Of further types those are first whose name was not there before. -/
theorem firstRegistered_append (front back : List TypeInfo) :
    firstRegistered (front ++ back) =
      firstRegistered front ++ (firstRegistered back).filter (·.name ∉ front.map (·.name)) := by
  induction front with
  | nil => simp [firstRegistered]
  | cons info front ih =>
    rw [List.cons_append, firstRegistered, ih, List.filter_append, List.filter_filter,
      firstRegistered, List.cons_append]
    simp

namespace TypeHierarchy

variable {types : List TypeInfo} {info : TypeInfo}

/-- A registration more comes behind the others. -/
theorem ofList_append_singleton (types : List TypeInfo) (info : TypeInfo) :
    ofList (types ++ [info]) = (ofList types).add info := by
  rw [ofList, List.foldl_append]
  rfl

/-- A name is unknown when no type was registered under it. -/
theorem get?_ofList_eq_none_iff {name : String} :
    (ofList types).get? name = none ↔ name ∉ types.map (·.name) := by
  rw [(describes_ofList types).found]
  simp

/-- A type that comes too late leaves the hierarchy as it is. -/
theorem ofList_append_known (known : info.name ∈ types.map (·.name)) :
    ofList (types ++ [info]) = ofList types := by
  rw [ofList_append_singleton]
  cases found : (ofList types).get? info.name with
  | none => exact absurd known (get?_ofList_eq_none_iff.mp found)
  | some first => exact add_of_known found

/-- A hierarchy holds the first type of each name, in the order of registration. -/
theorem types_ofList (types : List TypeInfo) : (ofList types).types = firstRegistered types := by
  induction types using List.reverseRecOn with
  | nil => rfl
  | append_singleton types info ih =>
    have single : firstRegistered [info] = [info] := rfl
    rw [firstRegistered_append, single, List.filter_singleton]
    by_cases known : info.name ∈ types.map (·.name)
    · rw [ofList_append_known known, ih, decide_eq_false (not_not_intro known)]
      exact (List.append_nil _).symm
    · rw [ofList_append_singleton, types_add (get?_ofList_eq_none_iff.mpr known), ih,
        decide_eq_true known]
      rfl

/-- A hierarchy is an index of the first type of each name: it finds it under its name, counts
the names, and lists the declared links in the order of registration. A class is beneath an
interface as often as it lists it, and so is an interface. -/
structure IsIndexOf (hierarchy : TypeHierarchy) (types : List TypeInfo) : Prop where
  found : ∀ name, hierarchy.get? name = types.find? (·.name == name)
  size : hierarchy.size = (types.map (·.name)).toFinset.card
  subclasses : ∀ above, hierarchy.directSubclasses above =
    ((firstRegistered types).filter fun info =>
      !info.isInterface && decide (info.superclass = some above)).map (·.name)
  implementors : ∀ above, hierarchy.directImplementors above =
    ((firstRegistered types).filter (!·.isInterface)).flatMap fun info =>
      List.replicate (info.interfaces.count above) info.name
  subinterfaces : ∀ above, hierarchy.directSubinterfaces above =
    ((firstRegistered types).filter (·.isInterface)).flatMap fun info =>
      List.replicate (info.interfaces.count above) info.name

/-- Making a list of the chosen entries is making none of the others. -/
theorem flatMap_filter_eq {α β : Type} (p : α → Bool) (f : α → List β) (xs : List α) :
    (xs.filter p).flatMap f = xs.flatMap fun x => if p x then f x else [] := by
  induction xs with
  | nil => rfl
  | cons x xs ih =>
    cases chosen : p x <;> simp [chosen, ih]

/-- Whatever is registered, the hierarchy is an index of it. -/
theorem isIndexOf_ofList (types : List TypeInfo) : (ofList types).IsIndexOf types where
  found := (describes_ofList types).found
  size := by
    have distinct := (indexed_ofList types).distinct
    have names : ((ofList types).types.map (·.name)).toFinset = (types.map (·.name)).toFinset := by
      ext name
      rw [List.mem_toFinset, List.mem_toFinset]
      have known : ¬ (ofList types).get? name = none ↔ name ∈ types.map (·.name) := by
        rw [get?_ofList_eq_none_iff, not_not]
      rw [← known, get?]
      simp
    rw [← names, List.toFinset_card_of_nodup distinct, List.length_map, size]
  subclasses := by
    intro above
    rw [(indexed_ofList types).subclasses, types_ofList, List.map_eq_flatMap, flatMap_filter_eq]
    refine List.flatMap_congr fun info _ => ?_
    cases info.isInterface with
    | true => rfl
    | false =>
      cases info.superclass with
      | none => rfl
      | some superclass => by_cases same : superclass = above <;> simp [same]
  implementors := by
    intro above
    rw [(indexed_ofList types).implementors, types_ofList, flatMap_filter_eq]
    refine List.flatMap_congr fun info _ => ?_
    cases info.isInterface <;> rfl
  subinterfaces := by
    intro above
    rw [(indexed_ofList types).subinterfaces, types_ofList, flatMap_filter_eq]

/-- A type that comes too late leaves no trace, whatever is registered behind it. -/
theorem ofList_append_known_append (known : info.name ∈ types.map (·.name))
    (back : List TypeInfo) : ofList (types ++ info :: back) = ofList (types ++ back) := by
  have late := ofList_append_known known
  rw [ofList, ofList] at late
  rw [← List.singleton_append, ← List.append_assoc, ofList, List.foldl_append, late, ofList,
    List.foldl_append]

/-- Whatever is registered, the hierarchy is an index of the first type of each name. A type whose
name is known leaves no trace in it. Types of distinct names give the same answer for every
target, in whatever order they are registered. The hierarchy of a program is such an index of the
classes, package by package in the order of their names, and of the further types behind them, so
under the name of a class the first class of that name is found. -/
theorem hierarchy_is_index :
    (∀ types, (ofList types).IsIndexOf types) ∧
    (∀ front info back, info.name ∈ front.map (·.name) →
      ofList (front ++ info :: back) = ofList (front ++ back)) ∧
    (∀ first second, first.Perm second → (first.map (·.name)).Nodup → ∀ target,
      (ofList first).monomorphism? target = (ofList second).monomorphism? target) ∧
    ∀ program : Program, program.packages.Pairwise (·.name < ·.name) ∧
      program.typeHierarchy.IsIndexOf
        ((program.packages.flatMap (·.classes)).map (·.info) ++ program.extraTypes) ∧
      ∀ name, program.typeHierarchy.get? name =
        (((program.packages.flatMap (·.classes)).find? (·.name == name)).map (·.info)).or
          (program.extraTypes.find? (·.name == name)) := by
  refine ⟨isIndexOf_ofList, fun front info back known => ofList_append_known_append known back,
    fun first second perm distinct =>
      monomorphism?_ofList_congr (find?_eq_of_perm perm distinct), ?_⟩
  intro program
  have index := isIndexOf_ofList
    ((program.packages.flatMap (·.classes)).map (·.info) ++ program.extraTypes)
  refine ⟨program.ascending, index, fun name => ?_⟩
  refine (index.found name).trans ?_
  rw [List.find?_append, List.find?_map]
  rfl

/-- The drawings without the circle that comes too late. -/
def distinctDrawings : List TypeInfo := drawings.eraseIdx 2

/-- The second circle leaves no trace, and the order of the others does not matter. -/
theorem index_of_drawings :
    ofList drawings = ofList distinctDrawings ∧ (distinctDrawings.map (·.name)).Nodup ∧
      (ofList drawings).size = 4 ∧ (ofList drawings).directImplementors "Drawable" = ["Circle"] ∧
      (ofList distinctDrawings.reverse).monomorphism? ⟨"Drawable", "draw", "()V"⟩ =
        some (.singleImplementor "Circle") := by
  obtain ⟨index, late, reordered, _⟩ := hierarchy_is_index
  have same : ofList drawings = ofList distinctDrawings :=
    late (drawings.take 2) _ (drawings.drop 3) (by decide)
  have distinct : (distinctDrawings.map (·.name)).Nodup := by decide
  have answer := reordered _ _ (List.reverse_perm distinctDrawings).symm distinct
    ⟨"Drawable", "draw", "()V"⟩
  refine ⟨same, distinct, (index drawings).size.trans (by decide),
    ((index drawings).implementors "Drawable").trans (by decide), ?_⟩
  rw [← answer]
  decide

end TypeHierarchy

end Devirt
