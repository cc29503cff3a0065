import Mathlib.Data.List.Induction
import Devirt.TypeHierarchy

/-!
# Receivers of calls

Which registered classes can be the receiver of a call, said by chains of declarations and
without an index: a class can be met through superclasses, an interface through the classes that
list it, through the interfaces beneath it and through superclasses again. Types are registered
in order. Declarations may close cycles, name types that are not registered, or list a name
twice.

The hierarchy asks its indices for direct links only. The indices hold exactly the direct links
of registered types, whatever was registered before. So where no direct link leads on, no chain
does, and every reason that the hierarchy gives is sound: the class or the method is final, or
exactly one class can be the receiver.
-/

namespace Devirt

variable {types : List TypeInfo} {info other : TypeInfo}

/-- The type is the first one of its name, which is the registration that counts. -/
def Registered (types : List TypeInfo) (info : TypeInfo) : Prop :=
  types.find? (·.name == info.name) = some info

instance : Decidable (Registered types info) := inferInstanceAs (Decidable (_ = _))

/-- Registered types of one name are one type. -/
theorem Registered.eq_of_name_eq (first : Registered types info) (second : Registered types other)
    (same : info.name = other.name) : info = other := by
  rw [Registered, same, second] at first
  exact (Option.some.inj first).symm

/-- A type more is registered when its name is new, and the others stay registered. -/
theorem exists_registered_append_iff {p : TypeInfo → Prop} :
    (∃ held, Registered (types ++ [info]) held ∧ p held) ↔
      (∃ held, Registered types held ∧ p held) ∨
        types.find? (·.name == info.name) = none ∧ p info := by
  have appended (held : TypeInfo) : Registered (types ++ [info]) held ↔
      Registered types held ∨ types.find? (·.name == info.name) = none ∧ held = info := by
    rw [Registered, Registered, List.find?_append, Option.or_eq_some_iff]
    refine or_congr_right ⟨fun ⟨absent, found⟩ => ?_, fun ⟨absent, same⟩ => ?_⟩
    · have same : held = info := by
        have mem := List.mem_of_find?_eq_some found
        simpa using mem
      exact ⟨same ▸ absent, same⟩
    · subst same
      exact ⟨absent, by simp⟩
  simp only [appended, or_and_right, exists_or, and_assoc, exists_and_left, exists_eq_left]

/-- The classes that can be receivers of a class: itself, and those whose superclass can be. -/
inductive ClassReceiver (types : List TypeInfo) (name : String) : TypeInfo → Prop
  | itself {info : TypeInfo} (registered : Registered types info)
      (isClass : info.isInterface = false) (named : info.name = name) :
      ClassReceiver types name info
  | inherits {info above : TypeInfo} (registered : Registered types info)
      (isClass : info.isInterface = false) (superclass : info.superclass = some above.name)
      (receiver : ClassReceiver types name above) : ClassReceiver types name info

/-- The interfaces beneath an interface: those that list it or list one of them. -/
inductive InterfaceBeneath (types : List TypeInfo) (name : String) : TypeInfo → Prop
  | lists {info : TypeInfo} (registered : Registered types info)
      (isInterface : info.isInterface = true) (listed : name ∈ info.interfaces) :
      InterfaceBeneath types name info
  | listsBeneath {info above : TypeInfo} (registered : Registered types info)
      (isInterface : info.isInterface = true) (listed : above.name ∈ info.interfaces)
      (beneath : InterfaceBeneath types name above) : InterfaceBeneath types name info

/-- The classes that can be receivers of an interface: those that list it or an interface
beneath it, and those whose superclass can be. -/
inductive InterfaceReceiver (types : List TypeInfo) (name : String) : TypeInfo → Prop
  | lists {info : TypeInfo} (registered : Registered types info)
      (isClass : info.isInterface = false) (listed : name ∈ info.interfaces) :
      InterfaceReceiver types name info
  | listsBeneath {info above : TypeInfo} (registered : Registered types info)
      (isClass : info.isInterface = false) (listed : above.name ∈ info.interfaces)
      (beneath : InterfaceBeneath types name above) : InterfaceReceiver types name info
  | inherits {info above : TypeInfo} (registered : Registered types info)
      (isClass : info.isInterface = false) (superclass : info.superclass = some above.name)
      (receiver : InterfaceReceiver types name above) : InterfaceReceiver types name info

/-- The registered class can be the receiver of a call whose target is declared by the type. -/
def CanReceive (types : List TypeInfo) (declarer receiver : TypeInfo) : Prop :=
  if declarer.isInterface then InterfaceReceiver types declarer.name receiver
  else ClassReceiver types declarer.name receiver

namespace TypeHierarchy

variable {hierarchy : TypeHierarchy} {above name : String}

/-- Each of the keys, as often as it occurs, has the name once more at the end of its list. -/
theorem names_addUnder (index : NameIndex) (new : String) (keys : List String) (key : String) :
    (addUnder index new keys).names key =
      index.names key ++ List.replicate (keys.count key) new := by
  induction keys generalizing index with
  | nil => simp [addUnder]
  | cons first rest ih =>
    have step := ih (index.add first new)
    rw [addUnder] at step ⊢
    rw [List.foldl_cons, step, NameIndex.names_add, List.append_assoc, List.count_cons]
    by_cases same : key = first
    · simp [same, List.replicate_succ]
    · simp [same, Ne.symm same]

/-- Under the keys the index has one name more. -/
theorem mem_names_addUnder {index : NameIndex} {keys : List String} {new key : String} :
    name ∈ (addUnder index new keys).names key ↔
      name ∈ index.names key ∨ key ∈ keys ∧ new = name := by
  rw [names_addUnder, List.mem_append, List.mem_replicate, ne_eq, List.count_eq_zero, not_not,
    eq_comm]

/-- A type whose name is taken changes nothing. -/
theorem add_of_known {first : TypeInfo} (known : hierarchy.get? info.name = some first) :
    hierarchy.add info = hierarchy := by
  rw [add, known]
  rfl

/-- A new type stands behind the others. -/
theorem types_add (fresh : hierarchy.get? info.name = none) :
    (hierarchy.add info).types = hierarchy.types ++ [info] := by
  rw [add, fresh]
  cases info.isInterface <;> rfl

/-- A new type is found under its name. -/
theorem get?_add (fresh : hierarchy.get? info.name = none) :
    (hierarchy.add info).get? name =
      (hierarchy.get? name).or (if info.name = name then some info else none) := by
  rw [get?, types_add fresh, List.find?_append, List.find?_singleton, ← get?]
  simp only [beq_iff_eq]

/-- A new class is directly beneath its superclass. -/
theorem mem_directSubclasses_add (fresh : hierarchy.get? info.name = none) :
    name ∈ (hierarchy.add info).directSubclasses above ↔
      name ∈ hierarchy.directSubclasses above ∨
        info.isInterface = false ∧ info.superclass = some above ∧ info.name = name := by
  rw [add, fresh]
  cases kind : info.isInterface <;> simp [directSubclasses, mem_names_addUnder]

/-- A new class is directly beneath the interfaces that it lists. -/
theorem mem_directImplementors_add (fresh : hierarchy.get? info.name = none) :
    name ∈ (hierarchy.add info).directImplementors above ↔
      name ∈ hierarchy.directImplementors above ∨
        info.isInterface = false ∧ above ∈ info.interfaces ∧ info.name = name := by
  rw [add, fresh]
  cases kind : info.isInterface <;> simp [directImplementors, mem_names_addUnder]

/-- A new interface is directly beneath the interfaces that it lists. -/
theorem mem_directSubinterfaces_add (fresh : hierarchy.get? info.name = none) :
    name ∈ (hierarchy.add info).directSubinterfaces above ↔
      name ∈ hierarchy.directSubinterfaces above ∨
        info.isInterface = true ∧ above ∈ info.interfaces ∧ info.name = name := by
  rw [add, fresh]
  cases kind : info.isInterface <;> simp [directSubinterfaces, mem_names_addUnder]

/-- The hierarchy finds the registered types, and its indices hold their direct links. -/
structure Describes (hierarchy : TypeHierarchy) (types : List TypeInfo) : Prop where
  found : ∀ name, hierarchy.get? name = types.find? (·.name == name)
  subclasses : ∀ above name, name ∈ hierarchy.directSubclasses above ↔
    ∃ held, Registered types held ∧
      held.isInterface = false ∧ held.superclass = some above ∧ held.name = name
  implementors : ∀ above name, name ∈ hierarchy.directImplementors above ↔
    ∃ held, Registered types held ∧
      held.isInterface = false ∧ above ∈ held.interfaces ∧ held.name = name
  subinterfaces : ∀ above name, name ∈ hierarchy.directSubinterfaces above ↔
    ∃ held, Registered types held ∧
      held.isInterface = true ∧ above ∈ held.interfaces ∧ held.name = name

/-- A registration more keeps the hierarchy and its indices in step with the types. -/
theorem Describes.add (describes : hierarchy.Describes types) (info : TypeInfo) :
    (hierarchy.add info).Describes (types ++ [info]) := by
  have appended (name : String) : (types ++ [info]).find? (·.name == name) =
      (hierarchy.get? name).or (if info.name = name then some info else none) := by
    rw [List.find?_append, describes.found, List.find?_singleton]
    simp only [beq_iff_eq]
  cases known : hierarchy.get? info.name with
  | none =>
    have fresh := (describes.found info.name).symm.trans known
    constructor
    · intro name
      rw [get?_add known, appended]
    · intro above name
      rw [mem_directSubclasses_add known, exists_registered_append_iff, describes.subclasses]
      simp only [fresh, true_and]
    · intro above name
      rw [mem_directImplementors_add known, exists_registered_append_iff, describes.implementors]
      simp only [fresh, true_and]
    · intro above name
      rw [mem_directSubinterfaces_add known, exists_registered_append_iff,
        describes.subinterfaces]
      simp only [fresh, true_and]
  | some first =>
    -- The name is taken, so nothing changes and the new type is not registered.
    have taken := (describes.found info.name).symm.trans known
    rw [add_of_known known]
    constructor
    · intro name
      rw [appended]
      by_cases named : info.name = name
      · subst named
        rw [known, Option.some_or]
      · rw [if_neg named, Option.or_none]
    · simp [exists_registered_append_iff, taken, describes.subclasses]
    · simp [exists_registered_append_iff, taken, describes.implementors]
    · simp [exists_registered_append_iff, taken, describes.subinterfaces]

/-- Whatever is registered in whatever order, the indices hold the direct links. -/
theorem describes_ofList (types : List TypeInfo) : (ofList types).Describes types := by
  induction types using List.reverseRecOn with
  | nil =>
    constructor <;> simp [ofList, get?, directSubclasses, directImplementors, directSubinterfaces,
      NameIndex.names, NameIndex.namesUnder, Registered]
  | append_singleton types info ih =>
    rw [ofList, List.foldl_append]
    exact ih.add info

namespace Describes

variable (describes : hierarchy.Describes types)
include describes

/-- A class without direct subclasses is the only receiver of itself. -/
theorem classReceiver_iff (registered : Registered types info) (isClass : info.isInterface = false)
    (leaf : hierarchy.directSubclasses info.name = []) {receiver : TypeInfo} :
    ClassReceiver types info.name receiver ↔ receiver = info := by
  apply Iff.intro
  · intro receives
    induction receives with
    | itself held _ named => exact held.eq_of_name_eq registered named
    | @inherits receiver above held isClass superclass _ ih =>
      have beneath := (describes.subclasses info.name receiver.name).mpr
        ⟨receiver, held, isClass, ih ▸ superclass, rfl⟩
      simp [leaf] at beneath
  · intro same
    subst same
    exact .itself registered isClass rfl

/-- Beneath an interface without direct subinterfaces there is no interface. -/
theorem not_interfaceBeneath (leaf : hierarchy.directSubinterfaces name = []) :
    ¬ InterfaceBeneath types name other := by
  intro beneath
  induction beneath with
  | @lists lower held isInterface listed =>
    have direct := (describes.subinterfaces name lower.name).mpr
      ⟨lower, held, isInterface, listed, rfl⟩
    simp [leaf] at direct
  | listsBeneath _ _ _ _ ih => exact ih

/-- An interface without direct subinterfaces that only one class lists has that class as its only
receiver, if the class has no direct subclasses. -/
theorem exists_interfaceReceiver_iff {only : String}
    (leaf : hierarchy.directSubinterfaces name = [])
    (single : hierarchy.directImplementors name = [only])
    (childless : hierarchy.directSubclasses only = []) :
    ∃ held : TypeInfo, held.name = only ∧
      ∀ receiver, InterfaceReceiver types name receiver ↔ receiver = held := by
  obtain ⟨held, registered, isClass, listed, named⟩ :=
    (describes.implementors name only).mp (by simp [single])
  subst named
  refine ⟨held, rfl, fun receiver => ⟨fun receives => ?_, fun same => ?_⟩⟩
  · induction receives with
    | @lists receiver found isClass listed =>
      have direct := (describes.implementors name receiver.name).mpr
        ⟨receiver, found, isClass, listed, rfl⟩
      rw [single, List.mem_singleton] at direct
      exact found.eq_of_name_eq registered direct
    | listsBeneath _ _ _ beneath => exact (describes.not_interfaceBeneath leaf beneath).elim
    | @inherits receiver above found isClass superclass _ ih =>
      have beneath := (describes.subclasses held.name receiver.name).mpr
        ⟨receiver, found, isClass, ih ▸ superclass, rfl⟩
      simp [childless] at beneath
  · subst same
    exact .lists registered isClass listed

end Describes

/-- A reason about an interface comes from its only implementor. -/
theorem interfaceMonomorphism?_eq_some_iff {reason : Monomorphism} :
    hierarchy.interfaceMonomorphism? name = some reason ↔
      ∃ only, hierarchy.directSubinterfaces name = [] ∧
        hierarchy.directImplementors name = [only] ∧ hierarchy.directSubclasses only = [] ∧
        reason = .singleImplementor only := by
  rw [interfaceMonomorphism?]
  split
  · rename_i beneath
    simp [beneath]
  · rename_i leaf
    split
    · rename_i only single
      split
      · rename_i childless
        simp only [not_not.mp leaf, single, Option.some.injEq, List.cons.injEq, and_true, true_and]
        refine ⟨fun same => ⟨only, rfl, childless, same.symm⟩, fun parts => ?_⟩
        obtain ⟨_, rfl, _, same⟩ := parts
        exact same.symm
      · rename_i beneath
        simp [single, beneath]
    · rename_i several
      simp only [reduceCtorEq, false_iff, not_exists, not_and]
      exact fun only _ single => (several only single).elim

/-- A reason about a class comes from what is final or from the lack of subclasses. -/
theorem isSome_classMonomorphism? {target : Member} :
    (hierarchy.classMonomorphism? info target).isSome ↔ info.isFinal = true ∨
      target.name ∈ info.finalMethods ∨ hierarchy.directSubclasses info.name = [] := by
  rw [classMonomorphism?]
  split
  · simp [*]
  · split
    · simp [*]
    · split <;> simp [*]

/-- Every reason that a hierarchy gives is sound in the world of the registered types, whatever
was registered in whatever order: the target's class is registered, and it is a final class, or
a class that declares the method final, or exactly one registered class can be the receiver. That
is the class itself, or the implementor of an interface that the reason names. -/
theorem monomorphism_reasons_sound (types : List TypeInfo) (target : Member)
    (reason : Monomorphism) (given : (ofList types).monomorphism? target = some reason) :
    ∃ info, Registered types info ∧ info.name = target.className ∧
      (info.isInterface = false ∧ info.isFinal = true ∨
        info.isInterface = false ∧ target.name ∈ info.finalMethods ∨
        ∃ only, (∀ receiver, CanReceive types info receiver ↔ receiver = only) ∧
          (info.isInterface = false → only = info) ∧
          (info.isInterface = true → reason.text = "single implementor " ++ only.name)) := by
  have describes := describes_ofList types
  rw [monomorphism?, describes.found] at given
  cases found : types.find? (·.name == target.className) with
  | none => simp [found] at given
  | some info =>
    have named : info.name = target.className := by simpa using List.find?_some found
    have registered : Registered types info := by rw [Registered, named, found]
    refine ⟨info, registered, named, ?_⟩
    simp only [found] at given
    cases kind : info.isInterface with
    | true =>
      simp only [kind, if_true] at given
      obtain ⟨only, leaf, single, childless, rfl⟩ := interfaceMonomorphism?_eq_some_iff.mp given
      obtain ⟨held, named, receivers⟩ :=
        describes.exists_interfaceReceiver_iff leaf single childless
      refine .inr (.inr ⟨held, ?_, nofun, fun _ => named ▸ rfl⟩)
      simpa [CanReceive, kind] using receivers
    | false =>
      simp only [kind, Bool.false_eq_true, if_false] at given
      rcases isSome_classMonomorphism?.mp (Option.isSome_of_eq_some given) with
        isFinal | listed | leaf
      · exact .inl ⟨rfl, isFinal⟩
      · exact .inr (.inl ⟨rfl, listed⟩)
      · refine .inr (.inr ⟨info, fun receiver => ?_, fun _ => rfl, nofun⟩)
        simpa [CanReceive, kind] using describes.classReceiver_iff registered kind leaf

/-- An interface with one implementor, which is registered a second time to no effect. Two other
classes name each other as their superclass. -/
def drawings : List TypeInfo := [
  { name := "Circle", superclass := some "Shape", interfaces := ["Drawable"], isFinal := true },
  { name := "Drawable", isInterface := true },
  { name := "Circle", interfaces := ["Drawable", "Drawable"] },
  { name := "Ring", superclass := some "Round" },
  { name := "Round", superclass := some "Ring" }]

/-- The circle is the only registered class that can be drawn. -/
theorem receiver_of_drawable :
    (ofList drawings).monomorphism? ⟨"Drawable", "draw", "()V"⟩ =
        some (.singleImplementor "Circle") ∧
      ∃ info only, Registered drawings info ∧ info.name = "Drawable" ∧ only.name = "Circle" ∧
        ∀ receiver, CanReceive drawings info receiver ↔ receiver = only := by
  have given : (ofList drawings).monomorphism? ⟨"Drawable", "draw", "()V"⟩ =
      some (.singleImplementor "Circle") := by decide
  obtain ⟨info, registered, named, cases⟩ := monomorphism_reasons_sound drawings _ _ given
  have known : Registered drawings { name := "Drawable", isInterface := true } := by decide
  have same := registered.eq_of_name_eq known named
  subst same
  rcases cases with ⟨isClass, _⟩ | ⟨isClass, _⟩ | ⟨only, receivers, _, text⟩
  · cases isClass
  · cases isClass
  · exact ⟨given, _, only, registered, rfl,
      (String.append_right_inj _ |>.mp (text rfl)).symm, receivers⟩

end TypeHierarchy

end Devirt
