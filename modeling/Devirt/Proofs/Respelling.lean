import Mathlib.Data.List.Forall2
import Devirt.Snapshot.Decode
import Devirt.Snapshot.Encode
import Devirt.Proofs.JsonText
import Devirt.Proofs.Reordering

/-!
# Kinds of calls spelled in two ways

A kind of call may be spelled by the name of its instruction wherever it is the value of a field
of that name. One value is a respelling of another if they are the same but for such fields. A
decoder reads a written value if it takes every respelling of it for the same thing.

A structure is written as an object, and so is every respelling of it, with the same keys. As the
keys are distinct, each of them leads to a respelling of its own value.
-/

namespace Devirt

namespace Json

mutual

/-- The second value is the first, with kinds of calls respelled in some of its fields. -/
inductive Respelled : Json → Json → Prop
  | null : Respelled .null .null
  | bool (value : Bool) : Respelled (.bool value) (.bool value)
  | number (value : JsonNumber) : Respelled (.number value) (.number value)
  | string (text : Option String) : Respelled (.string text) (.string text)
  | array {items others : List Json} (each : List.Forall₂ Respelled items others) :
      Respelled (.array items) (.array others)
  | object {fields others : List (Option String × Json)}
      (each : List.Forall₂ FieldRespelled fields others) :
      Respelled (.object fields) (.object others)

/-- The second field is the first, with kinds of calls respelled. -/
inductive FieldRespelled : Option String × Json → Option String × Json → Prop
  | value (key : Option String) {value other : Json} (respelled : Respelled value other) :
      FieldRespelled (key, value) (key, other)
  | kind (kind : CallKind) :
      FieldRespelled (some "kind", text kind.name) (some "kind", text kind.opcode)

end

/-- A respelled field keeps its key. -/
theorem FieldRespelled.key_eq {field other : Option String × Json}
    (respelled : FieldRespelled field other) : field.1 = other.1 := by
  cases respelled with
  | value => rfl
  | kind => rfl

/-- Every value is a respelling of itself. -/
theorem Respelled.refl (json : Json) : Respelled json json := by
  induction json using nestedInduction with
  | array items ih => exact .array (List.forall₂_same.mpr ih)
  | object fields ih =>
    exact .object (List.forall₂_same.mpr fun field mem => .value field.1 (ih field mem))
  | null => exact .null
  | bool value => exact .bool value
  | number value => exact .number value
  | string text => exact .string text

/-- Steps that succeed one by one succeed together. -/
theorem mapM_eq_some_of_forall₂ {α β : Type} {act : α → Option β} {xs : List α} {ys : List β}
    (each : List.Forall₂ (fun x y => act x = some y) xs ys) : xs.mapM act = some ys := by
  induction each with
  | nil => rfl
  | cons own _ ih =>
    rw [List.mapM_cons, own, ih]
    rfl

/-- A key that is there once leads to its value. -/
theorem field?_of_mem {fields : List (Option String × Json)}
    (distinct : (fields.map Prod.fst).Nodup) {name : String} {value : Json}
    (mem : (some name, value) ∈ fields) :
    field? fields name = some (some value) := by
  obtain ⟨front, back, rfl⟩ := List.append_of_mem mem
  rw [List.map_append, List.map_cons, List.nodup_middle, List.nodup_cons, List.mem_append]
    at distinct
  have absent {part : List (Option String × Json)} (other : some name ∉ part.map Prod.fst) :
      part.filter (·.1 == some name) = [] := by
    refine List.filter_eq_nil_iff.mpr fun field mem same => other ?_
    exact List.mem_map.mpr ⟨field, mem, by simpa using same⟩
  obtain ⟨notFront, notBack⟩ := not_or.mp distinct.1
  simp [field?, List.filter_append, absent notFront, absent notBack]

section Records

variable {fields : List (String × Json)} {others : List (Option String × Json)}

/-- The fields are those of a written record, with kinds of calls respelled. -/
def FieldsRespelled (fields : List (String × Json)) (others : List (Option String × Json)) : Prop :=
  List.Forall₂ FieldRespelled (fields.map fun (key, value) => (some key, value)) others

/-- A respelled object has the same keys. -/
theorem keys_of_respelled (each : FieldsRespelled fields others) :
    others.map Prod.fst = (fields.map Prod.fst).map some := by
  rw [← map_eq_of_forall₂ each fun _ _ => FieldRespelled.key_eq, List.map_map, List.map_map]
  rfl

/-- Each key of a respelled object is one of the names. -/
theorem exists_name_of_mem (each : FieldsRespelled fields others)
    {field : Option String × Json} (mem : field ∈ others) :
    ∃ name ∈ fields.map Prod.fst, some name = field.1 := by
  have key := List.mem_map_of_mem (f := Prod.fst) mem
  rw [keys_of_respelled each] at key
  exact List.mem_map.mp key

/-- A respelled object has no further fields. -/
theorem filter_of_respelled (each : FieldsRespelled fields others) {names : List String}
    (known : fields.map Prod.fst = names) :
    (others.filter fun (key, _) => key.all (· ∉ names)) = [] := by
  refine List.filter_eq_nil_iff.mpr fun field mem => ?_
  obtain ⟨name, isKnown, same⟩ := exists_name_of_mem each mem
  simp [← same, known ▸ isKnown]

/-- The value is that of the field, with kinds of calls respelled. -/
def RespelledAt (field : String × Json) (value : Json) : Prop :=
  FieldRespelled (some field.1, field.2) (some field.1, value)

/-- Fields of a respelled object are found by their names. -/
theorem exists_objectFields?_eq {part : List (String × Json)}
    (distinct : (fields.map Prod.fst).Nodup) (each : FieldsRespelled fields others)
    (sub : part ⊆ fields) :
    ∃ values, objectFields? (part.map Prod.fst) others = some (values.map some) ∧
      List.Forall₂ RespelledAt part values := by
  have texts : others.all (·.1.isSome) = true := by
    refine List.all_eq_true.mpr fun field mem => ?_
    obtain ⟨name, _, same⟩ := exists_name_of_mem each mem
    rw [← same, Option.isSome_some]
  have once : (others.map Prod.fst).Nodup :=
    keys_of_respelled each ▸ distinct.map fun _ _ same => Option.some.inj same
  rw [objectFields?, if_pos texts]
  induction part with
  | nil => exact ⟨[], rfl, .nil⟩
  | cons field rest ih =>
    obtain ⟨mem, sub⟩ := List.cons_subset.mp sub
    obtain ⟨values, found, related⟩ := ih sub
    have member : (some field.1, field.2) ∈ fields.map fun (key, value) => (some key, value) :=
      List.mem_map_of_mem mem
    obtain ⟨⟨key, value⟩, held, respelled⟩ := (Reordered.of_forall₂ each).symm.exists_of_mem member
    obtain rfl : some field.1 = key := respelled.key_eq
    refine ⟨value :: values, ?_, .cons respelled related⟩
    rw [List.map_cons, List.mapM_cons, field?_of_mem once held, found]
    rfl

/-- The fields of a respelled structure are found in their order. -/
theorem exists_fields?_eq {json : Json} (distinct : (fields.map Prod.fst).Nodup)
    (respelled : Respelled (record fields) json) :
    ∃ values, json.fields? (fields.map Prod.fst) = some (values.map some) ∧
      List.Forall₂ RespelledAt fields values := by
  cases respelled with
  | object each => exact exists_objectFields?_eq distinct each (List.Subset.refl _)

end Records

/-- What a decoder makes of a written value, however kinds of calls are respelled in it. -/
def Reads {α : Type} (read? : Json → Option α) (written : Json) (a : α) : Prop :=
  ∀ json, Respelled written json → read? json = some a

/-- What a decoder makes of the value of a written field. -/
def ReadsAt {α : Type} (read? : Json → Option α) (field : String × Json) (a : α) : Prop :=
  ∀ json, RespelledAt field json → read? json = some a

namespace Reads

variable {α : Type} {read? : Json → Option α} {written : Json} {a : α}

/-- Only a field named for kinds of calls has more respellings than its value. -/
theorem field (reads : Reads read? written a) {name : String} (other : name ≠ "kind") :
    ReadsAt read? (name, written) a := by
  intro json respelled
  cases respelled with
  | value _ respelled => exact reads json respelled
  | kind => exact absurd rfl other

/-- A text is read back. -/
theorem text (s : String) : Reads text? (.text s) s := by
  intro json respelled
  cases respelled
  rfl

/-- A text that may be absent is read back. -/
theorem optional (s : Option String) : Reads nullableText? (.optional s) s := by
  intro json respelled
  cases s with
  | none =>
    cases respelled
    rfl
  | some s =>
    cases respelled
    rfl

/-- A truth value is read back. -/
theorem bool (b : Bool) : Reads bool? (.bool b) b := by
  intro json respelled
  cases respelled
  rfl

/-- A 32-bit number is read back. -/
theorem uint32 (n : UInt32) : Reads uint32? (.natural n.toNat) n := by
  intro json respelled
  cases respelled
  exact Text.toUInt32?_toNat n

/-- A 64-bit number is read back. -/
theorem uint64 (n : UInt64) : Reads uint64? (.natural n.toNat) n := by
  intro json respelled
  cases respelled
  exact Text.toUInt64?_toNat n

/-- A list is read back if each of its entries is. -/
theorem list {write : α → Json} (each : ∀ a, Reads read? (write a) a) (xs : List α) :
    Reads (list? read?) (.array (xs.map write)) xs := by
  intro json respelled
  cases respelled with
  | array related =>
    refine mapM_eq_some_of_forall₂ (List.Forall₂.flip ?_)
    exact (List.forall₂_map_left_iff.mp related).imp fun a item => each a item

/-- A list of texts is read back. -/
theorem texts (strings : List String) : Reads (list? text?) (.texts strings) strings :=
  list text strings

end Reads

end Json

end Devirt
