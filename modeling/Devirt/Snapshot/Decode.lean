import Devirt.Json.Parser
import Devirt.Snapshot.Basic

/-!
# Snapshots from JSON

A structure is an object of its fields, in any order, or an array of them in the order of
declaration. A field that must be there may not be missing; of the others a missing one has its
default, and in an array only fields at the end can be missing. No field may be given twice.
Fields of other names are passed over in an object, and there are no further items in an array.

A class is always an object, since the fields of its declared shape stand among its own. Its
further fields must at least fit into memory as values: see `classSpare`.
-/

namespace Devirt

namespace Json

/-- The text of a string. -/
def text? : Json → Option String
  | .string text => text
  | _ => none

/-- The text of a string, or nothing for null. -/
def nullableText? : Json → Option (Option String)
  | .null => some none
  | json => json.text?.map some

/-- A truth value. -/
def bool? : Json → Option Bool
  | .bool value => some value
  | _ => none

/-- A natural number. -/
def natural? : Json → Option Nat
  | .number value => value.natural?
  | _ => none

/-- A 32-bit number. -/
def uint32? (json : Json) : Option UInt32 := json.natural?.bind Text.toUInt32?

/-- A 64-bit number. -/
def uint64? (json : Json) : Option UInt64 := json.natural?.bind Text.toUInt64?

/-- The values of an array's items. -/
def list? {α : Type} (item? : Json → Option α) : Json → Option (List α)
  | .array items => items.mapM item?
  | _ => none

/-- The value of a field, or the default if it is missing. -/
def withDefault {α : Type} (default : α) (value? : Json → Option α) : Option Json → Option α
  | none => some default
  | some json => value? json

/-- The field of a name, if it is there. Two fields of the name have no meaning. -/
def field? (fields : List (Option String × Json)) (name : String) : Option (Option Json) :=
  match fields.filter (·.1 == some name) with
  | [] => some none
  | [(_, value)] => some (some value)
  | _ => none

/-- The fields of an object, in the order of the names. Every key must have a text. -/
def objectFields? (names : List String) (fields : List (Option String × Json)) :
    Option (List (Option Json)) :=
  if fields.all (·.1.isSome) then names.mapM (field? fields) else none

/-- The fields of a structure, in the order of the names: an object, or an array of them. -/
def fields? (names : List String) : Json → Option (List (Option Json))
  | .object fields => objectFields? names fields
  | .array items =>
    if items.length ≤ names.length then
      some (items.map some ++ List.replicate (names.length - items.length) none)
    else none
  | _ => none

end Json

/-- The kind of call that a string spells. It may also be the only key of an object, with null
as its value. -/
def CallKind.ofJson? : Json → Option CallKind
  | .string (some spelling) => ofSpelling? spelling
  | .object [(some spelling, .null)] => ofSpelling? spelling
  | _ => none

/-- A member from its fields. -/
def Member.ofFields? : List (Option Json) → Option Member
  | [some className, some name, descriptor] => do
    some ⟨← className.text?, ← name.text?, ← Json.withDefault "" Json.text? descriptor⟩
  | _ => none

/-- A member from JSON. -/
def Member.ofJson? (json : Json) : Option Member := do
  ofFields? (← json.fields? ["class_name", "name", "descriptor"])

/-- A call site from JSON. -/
def CallSite.ofJson? (json : Json) : Option CallSite := do
  match ← json.fields? ["offset", "kind", "target"] with
  | [some offset, some kind, some target] =>
    some ⟨← offset.uint32?, ← CallKind.ofJson? kind, ← Member.ofJson? target⟩
  | _ => none

/-- The names of the fields of a type's declared shape. -/
def TypeInfo.fieldNames : List String :=
  ["name", "superclass", "interfaces", "is_final", "is_interface", "final_methods"]

/-- A type's declared shape from its fields. -/
def TypeInfo.ofFields? : List (Option Json) → Option TypeInfo
  | [some name, superclass, interfaces, isFinal, isInterface, finalMethods] => do
    some {
      name := ← name.text?
      superclass := ← Json.withDefault none Json.nullableText? superclass
      interfaces := ← Json.withDefault [] (Json.list? Json.text?) interfaces
      isFinal := ← Json.withDefault false Json.bool? isFinal
      isInterface := ← Json.withDefault false Json.bool? isInterface
      finalMethods := ← Json.withDefault [] (Json.list? Json.text?) finalMethods }
  | _ => none

/-- A type's declared shape from JSON. -/
def TypeInfo.ofJson? (json : Json) : Option TypeInfo := do
  ofFields? (← json.fields? fieldNames)

namespace Snapshot

/-- An instruction from JSON. -/
def InstructionEntry.ofJson? (json : Json) : Option InstructionEntry := do
  match ← json.fields?
    ["annotation", "address", "modifier", "mnemonic", "operands", "comments"] with
  | [label, some address, modifier, some mnemonic, operands, comments] =>
    some {
      label := ← Json.withDefault none Json.nullableText? label
      address := ← address.uint64?
      modifier := ← Json.withDefault none Json.nullableText? modifier
      mnemonic := ← mnemonic.text?
      operands := ← Json.withDefault [] (Json.list? Json.text?) operands
      comments := ← Json.withDefault [] (Json.list? Json.text?) comments }
  | _ => none

/-- A method from JSON. -/
def MethodEntry.ofJson? (json : Json) : Option MethodEntry := do
  match ← json.fields?
    ["class_name", "name", "descriptor", "call_sites", "instructions", "assembly"] with
  | [className, name, descriptor, callSites, instructions, assembly] =>
    some {
      member := ← Member.ofFields? [className, name, descriptor]
      callSites := ← Json.withDefault [] (Json.list? CallSite.ofJson?) callSites
      instructions := ← Json.withDefault [] (Json.list? InstructionEntry.ofJson?) instructions
      assembly := ← Json.withDefault none Json.nullableText? assembly }
  | _ => none

/-- How deep the values of a class's further fields may be nested: no more than 127 arrays and
objects may be open at a time, and five of them are open in a class. -/
def classSpare : Nat := 122

/-- A class from JSON. -/
def ClassEntry.ofJson? : Json → Option ClassEntry
  | .object fields => do
    let names := TypeInfo.fieldNames ++ ["package", "methods"]
    let spare := fields.filter fun (key, _) => key.all (· ∉ names)
    if Json.fieldsFitWithin classSpare spare then
      let shape ← Json.objectFields? TypeInfo.fieldNames fields
      match ← Json.objectFields? ["package", "methods"] fields with
      | [some package, methods] =>
        some {
          info := ← TypeInfo.ofFields? shape
          package := ← package.text?
          methods := ← Json.withDefault [] (Json.list? MethodEntry.ofJson?) methods }
      | _ => none
    else none
  | _ => none

/-- A package from JSON. -/
def PackageEntry.ofJson? (json : Json) : Option PackageEntry := do
  match ← json.fields? ["name", "parent", "children", "classes"] with
  | [some name, parent, children, classes] =>
    some {
      name := ← name.text?
      parent := ← Json.withDefault none Json.nullableText? parent
      children := ← Json.withDefault [] (Json.list? Json.text?) children
      classes := ← Json.withDefault [] (Json.list? ClassEntry.ofJson?) classes }
  | _ => none

/-- A snapshot from JSON. -/
def ofJson? (json : Json) : Option Snapshot := do
  match ← json.fields? ["packages", "types"] with
  | [some packages, types] =>
    some {
      packages := ← packages.list? PackageEntry.ofJson?
      types := ← Json.withDefault [] (Json.list? TypeInfo.ofJson?) types }
  | _ => none

/-- The snapshot written in a text. -/
def ofText? (text : String) : Option Snapshot := do ofJson? (← Json.parse? text)

end Snapshot

end Devirt
