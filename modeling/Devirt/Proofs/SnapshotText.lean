import Devirt.Proofs.Respelling

/-!
# Snapshots read back

What is written of a snapshot is read as the same snapshot: all texts, whatever characters they
hold, all addresses and offsets, lists of any length, and what is absent as absent. Each record
is read back because its parts are. That the fields of a type's declared shape stand among those
of a class does no harm, as no name occurs in both.

The kinds of calls in the text may be respelled by their opcodes. No default of a missing field
has a part in this, since every field is written.
-/

namespace Devirt

open Json

/-- A kind of call is read back from either spelling. -/
theorem CallKind.reads (kind : CallKind) : ReadsAt CallKind.ofJson? ("kind", kind.toJson) kind := by
  intro json respelled
  generalize written : kind.toJson = value at respelled
  cases respelled with
  | value _ respelled =>
    subst written
    cases respelled
    exact CallKind.ofSpelling?_name kind
  | kind other =>
    have same : kind.name = other.name := Option.some.inj (Json.string.inj written)
    have read := CallKind.ofSpelling?_name kind
    rw [same, CallKind.ofSpelling?_name] at read
    exact read ▸ CallKind.ofSpelling?_opcode other

/-- A member is read back from its fields. -/
theorem Member.ofFields?_eq (member : Member) {values : List Json}
    (each : List.Forall₂ RespelledAt member.jsonFields values) :
    Member.ofFields? (values.map some) = some member := by
  match values, each with
  | [_, _, _], .cons className (.cons name (.cons descriptor .nil)) =>
    have className := (Reads.text member.className).field (by decide) _ className
    have name := (Reads.text member.name).field (by decide) _ name
    have descriptor := (Reads.text member.descriptor).field (by decide) _ descriptor
    simp [Member.ofFields?, withDefault, className, name, descriptor]

/-- A member is read back. -/
theorem Member.reads (member : Member) : Reads Member.ofJson? member.toJson member := by
  intro json respelled
  obtain ⟨values, found, each⟩ := exists_fields?_eq (by simp [jsonFields]) respelled
  have found : json.fields? ["class_name", "name", "descriptor"] = some (values.map some) := found
  rw [ofJson?, found]
  exact member.ofFields?_eq each

/-- A call site is read back. -/
theorem CallSite.reads (site : CallSite) : Reads CallSite.ofJson? site.toJson site := by
  intro json respelled
  obtain ⟨values, found, each⟩ := exists_fields?_eq (by simp) respelled
  match values, each with
  | [_, _, _], .cons offset (.cons kind (.cons target .nil)) =>
    have offset := (Reads.uint32 site.offset).field (by decide) _ offset
    have kind := site.kind.reads _ kind
    have target := site.target.reads.field (by decide) _ target
    simp only [List.map_cons, List.map_nil] at found
    simp [ofJson?, found, offset, kind, target]

/-- A type's declared shape is read back from its fields. -/
theorem TypeInfo.ofFields?_eq (info : TypeInfo) {values : List Json}
    (each : List.Forall₂ RespelledAt info.jsonFields values) :
    TypeInfo.ofFields? (values.map some) = some info := by
  match values, each with
  | [_, _, _, _, _, _], .cons name (.cons superclass (.cons interfaces (.cons isFinal
      (.cons isInterface (.cons finalMethods .nil))))) =>
    have name := (Reads.text info.name).field (by decide) _ name
    have superclass := (Reads.optional info.superclass).field (by decide) _ superclass
    have interfaces := (Reads.texts info.interfaces).field (by decide) _ interfaces
    have isFinal := (Reads.bool info.isFinal).field (by decide) _ isFinal
    have isInterface := (Reads.bool info.isInterface).field (by decide) _ isInterface
    have finalMethods := (Reads.texts info.finalMethods).field (by decide) _ finalMethods
    simp [ofFields?, withDefault, name, superclass, interfaces, isFinal, isInterface, finalMethods]

/-- A type's declared shape is read back. -/
theorem TypeInfo.reads (info : TypeInfo) : Reads TypeInfo.ofJson? info.toJson info := by
  intro json respelled
  obtain ⟨values, found, each⟩ := exists_fields?_eq (by simp [jsonFields]) respelled
  have found : json.fields? fieldNames = some (values.map some) := found
  rw [ofJson?, found]
  exact info.ofFields?_eq each

namespace Snapshot

/-- An instruction is read back. -/
theorem InstructionEntry.reads (entry : InstructionEntry) :
    Reads InstructionEntry.ofJson? entry.toJson entry := by
  intro json respelled
  obtain ⟨values, found, each⟩ := exists_fields?_eq (by simp) respelled
  match values, each with
  | [_, _, _, _, _, _], .cons label (.cons address (.cons modifier (.cons mnemonic
      (.cons operands (.cons comments .nil))))) =>
    have label := (Reads.optional entry.label).field (by decide) _ label
    have address := (Reads.uint64 entry.address).field (by decide) _ address
    have modifier := (Reads.optional entry.modifier).field (by decide) _ modifier
    have mnemonic := (Reads.text entry.mnemonic).field (by decide) _ mnemonic
    have operands := (Reads.texts entry.operands).field (by decide) _ operands
    have comments := (Reads.texts entry.comments).field (by decide) _ comments
    simp only [List.map_cons, List.map_nil] at found
    simp [ofJson?, found, withDefault, label, address, modifier, mnemonic, operands, comments]

/-- A method is read back. -/
theorem MethodEntry.reads (entry : MethodEntry) : Reads MethodEntry.ofJson? entry.toJson entry := by
  intro json respelled
  obtain ⟨values, found, each⟩ := exists_fields?_eq (by simp [Member.jsonFields]) respelled
  match values, each with
  | [_, _, _, _, _, _], .cons className (.cons name (.cons descriptor (.cons callSites
      (.cons instructions (.cons assembly .nil))))) =>
    have member := entry.member.ofFields?_eq (.cons className (.cons name (.cons descriptor .nil)))
    have callSites := (Reads.list CallSite.reads entry.callSites).field (by decide) _ callSites
    have instructions := (Reads.list InstructionEntry.reads entry.instructions).field (by decide) _
      instructions
    have assembly := (Reads.optional entry.assembly).field (by decide) _ assembly
    simp only [Member.jsonFields, List.cons_append, List.nil_append, List.map_cons,
      List.map_nil] at found member
    simp [ofJson?, found, withDefault, member, callSites, instructions, assembly]

/-- A class is read back. Its object holds the fields of its declared shape, its own, and no
others. -/
theorem ClassEntry.reads (entry : ClassEntry) : Reads ClassEntry.ofJson? entry.toJson entry := by
  intro json respelled
  cases respelled with
  | @object _ others related =>
    have names : (entry.info.jsonFields ++ [("package", Json.text entry.package),
        ("methods", .array (entry.methods.map MethodEntry.toJson))]).map Prod.fst =
          TypeInfo.fieldNames ++ ["package", "methods"] := rfl
    have distinct := names ▸ (by decide : (TypeInfo.fieldNames ++ ["package", "methods"]).Nodup)
    have noSpare := filter_of_respelled related names
    obtain ⟨shape, shapeFound, shapeRead⟩ :=
      exists_objectFields?_eq distinct related (List.subset_append_left _ _)
    obtain ⟨own, ownFound, ownRead⟩ :=
      exists_objectFields?_eq distinct related (List.subset_append_right _ _)
    have shapeFound : objectFields? TypeInfo.fieldNames others = some (shape.map some) := shapeFound
    have info := entry.info.ofFields?_eq shapeRead
    match own, ownRead with
    | [_, _], .cons package (.cons methods .nil) =>
      have package := (Reads.text entry.package).field (by decide) _ package
      have methods := (Reads.list MethodEntry.reads entry.methods).field (by decide) _ methods
      simp only [List.map_cons, List.map_nil] at ownFound
      -- The filter of further fields is put away before `simp` takes its condition apart.
      simp only [ofJson?, noSpare, fieldsFitWithin, if_true]
      simp [shapeFound, ownFound, info, withDefault, package, methods]

/-- A package is read back. -/
theorem PackageEntry.reads (entry : PackageEntry) :
    Reads PackageEntry.ofJson? entry.toJson entry := by
  intro json respelled
  obtain ⟨values, found, each⟩ := exists_fields?_eq (by simp) respelled
  match values, each with
  | [_, _, _, _], .cons name (.cons parent (.cons children (.cons classes .nil))) =>
    have name := (Reads.text entry.name).field (by decide) _ name
    have parent := (Reads.optional entry.parent).field (by decide) _ parent
    have children := (Reads.texts entry.children).field (by decide) _ children
    have classes := (Reads.list ClassEntry.reads entry.classes).field (by decide) _ classes
    simp only [List.map_cons, List.map_nil] at found
    simp [ofJson?, found, withDefault, name, parent, children, classes]

/-- A snapshot is read back. -/
theorem reads (snapshot : Snapshot) : Reads ofJson? snapshot.toJson snapshot := by
  intro json respelled
  obtain ⟨values, found, each⟩ := exists_fields?_eq (by simp) respelled
  match values, each with
  | [_, _], .cons packages (.cons types .nil) =>
    have packages := (Reads.list PackageEntry.reads snapshot.packages).field (by decide) _ packages
    have types := (Reads.list TypeInfo.reads snapshot.types).field (by decide) _ types
    simp only [List.map_cons, List.map_nil] at found
    simp [ofJson?, found, withDefault, packages, types]

/-- An accepted text, written back as the compact text of the snapshot it holds. -/
def writtenBack? (text : String) : Option String := (ofText? text).map toText

/-- A respelling of a written snapshot, as a text, is read as the snapshot. -/
theorem ofText?_render {snapshot : Snapshot} {json : Json}
    (respelled : snapshot.toJson.Respelled json) : ofText? json.render = some snapshot := by
  rw [ofText?, json.parse?_render]
  exact snapshot.reads json respelled

/-- Every snapshot is read back from its text, also when kinds of calls in the text are respelled
by their opcodes. Writing an accepted text back gives a text that holds the same snapshot, and
that writing back leaves as it is. -/
theorem text_is_read_back :
    (∀ snapshot : Snapshot, ofText? snapshot.toText = some snapshot ∧
      ∀ json, snapshot.toJson.Respelled json → ofText? json.render = some snapshot) ∧
    ∀ text written, writtenBack? text = some written →
      ofText? written = ofText? text ∧ writtenBack? written = some written := by
  have readBack (snapshot : Snapshot) : ofText? snapshot.toText = some snapshot :=
    ofText?_render (.refl snapshot.toJson)
  refine ⟨fun snapshot => ⟨readBack snapshot, fun json => ofText?_render⟩, ?_⟩
  intro text written accepted
  obtain ⟨snapshot, holds, rfl⟩ := Option.map_eq_some_iff.mp accepted
  exact ⟨(readBack snapshot).trans holds.symm, by rw [writtenBack?, readBack, Option.map_some]⟩

/-- A member whose name needs every sort of escape. -/
def escapedMember : Member := ⟨"a.M", "\"\\\n\x01é", "()V"⟩

/-- A snapshot of one method with one call site, at the last of all offsets. -/
def escapedSnapshot : Snapshot where
  packages := [{
    name := "a"
    classes := [{
      info := { name := "a.M" }
      package := "a"
      methods := [{
        member := escapedMember
        callSites := [⟨4294967295, .virtual, escapedMember⟩] }] }] }]

/-- The snapshot as it is written, but for the kind of the call site. -/
def opcodeSnapshot : Json :=
  let site : Json := .record [("offset", .natural 4294967295), ("kind", .text "invokevirtual"),
    ("target", escapedMember.toJson)]
  let method : Json := .record (escapedMember.jsonFields ++
    [("call_sites", .array [site]), ("instructions", .array []), ("assembly", .null)])
  let loaded : Json := .record (TypeInfo.jsonFields { name := "a.M" } ++
    [("package", .text "a"), ("methods", .array [method])])
  let package : Json := .record [("name", .text "a"), ("parent", .null), ("children", .array []),
    ("classes", .array [loaded])]
  .record [("packages", .array [package]), ("types", .array [])]

/-- The snapshot is read back from the text with the opcode. -/
theorem text_of_opcodeSnapshot : escapedSnapshot.toJson.Respelled opcodeSnapshot ∧
    ofText? opcodeSnapshot.render = some escapedSnapshot := by
  have same (field : Option String × Json) : FieldRespelled field field :=
    .value field.1 (.refl field.2)
  have respelled : escapedSnapshot.toJson.Respelled opcodeSnapshot := by
    refine .object (.cons (.value _ (.array (.cons ?package .nil))) (.cons (same _) .nil))
    refine .object (.cons (same _) (.cons (same _) (.cons (same _)
      (.cons (.value _ (.array (.cons ?loaded .nil))) .nil))))
    refine .object (.cons (same _) (.cons (same _) (.cons (same _) (.cons (same _) (.cons (same _)
      (.cons (same _) (.cons (same _) (.cons (.value _ (.array (.cons ?method .nil))) .nil))))))))
    refine .object (.cons (same _) (.cons (same _) (.cons (same _)
      (.cons (.value _ (.array (.cons ?site .nil))) (.cons (same _) (.cons (same _) .nil))))))
    exact .object (.cons (same _) (.cons (.kind .virtual) (.cons (same _) .nil)))
  exact ⟨respelled, (text_is_read_back.1 escapedSnapshot).2 _ respelled⟩

end Snapshot

end Devirt
