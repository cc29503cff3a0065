import Devirt.Json.Printer
import Devirt.Snapshot.Basic

/-!
# Snapshots as JSON

Every field is written, in the order of declaration, absent texts as null. A class is one
object that holds the fields of its declared shape next to its own.
-/

namespace Devirt

/-- A member as JSON fields. -/
def Member.jsonFields (member : Member) : List (String × Json) :=
  [("class_name", .text member.className), ("name", .text member.name),
   ("descriptor", .text member.descriptor)]

/-- A member as JSON. -/
def Member.toJson (member : Member) : Json := .record member.jsonFields

/-- A kind of call as JSON: its short name. -/
def CallKind.toJson (kind : CallKind) : Json := .text kind.name

/-- A call site as JSON. -/
def CallSite.toJson (site : CallSite) : Json :=
  .record [("offset", .natural site.offset.toNat), ("kind", site.kind.toJson),
    ("target", site.target.toJson)]

/-- A type's declared shape as JSON fields. -/
def TypeInfo.jsonFields (info : TypeInfo) : List (String × Json) :=
  [("name", .text info.name), ("superclass", .optional info.superclass),
   ("interfaces", .texts info.interfaces), ("is_final", .bool info.isFinal),
   ("is_interface", .bool info.isInterface), ("final_methods", .texts info.finalMethods)]

/-- A type's declared shape as JSON. -/
def TypeInfo.toJson (info : TypeInfo) : Json := .record info.jsonFields

namespace Snapshot

/-- An instruction as JSON. -/
def InstructionEntry.toJson (entry : InstructionEntry) : Json :=
  .record [("annotation", .optional entry.label), ("address", .natural entry.address.toNat),
    ("modifier", .optional entry.modifier), ("mnemonic", .text entry.mnemonic),
    ("operands", .texts entry.operands), ("comments", .texts entry.comments)]

/-- A method as JSON. -/
def MethodEntry.toJson (entry : MethodEntry) : Json :=
  .record (entry.member.jsonFields ++
    [("call_sites", .array (entry.callSites.map CallSite.toJson)),
     ("instructions", .array (entry.instructions.map InstructionEntry.toJson)),
     ("assembly", .optional entry.assembly)])

/-- A class as JSON. -/
def ClassEntry.toJson (entry : ClassEntry) : Json :=
  .record (entry.info.jsonFields ++
    [("package", .text entry.package),
     ("methods", .array (entry.methods.map MethodEntry.toJson))])

/-- A package as JSON. -/
def PackageEntry.toJson (entry : PackageEntry) : Json :=
  .record [("name", .text entry.name), ("parent", .optional entry.parent),
    ("children", .texts entry.children), ("classes", .array (entry.classes.map ClassEntry.toJson))]

/-- The snapshot as JSON. -/
def toJson (snapshot : Snapshot) : Json :=
  .record [("packages", .array (snapshot.packages.map PackageEntry.toJson)),
    ("types", .array (snapshot.types.map TypeInfo.toJson))]

/-- The snapshot as compact JSON text. -/
def toText (snapshot : Snapshot) : String := snapshot.toJson.render

end Snapshot

end Devirt
