import Devirt.Instruction.Basic
import Devirt.Member
import Devirt.TypeHierarchy

/-!
# Snapshots

A snapshot is a program as it is handed over: packages with classes, classes with methods,
methods with native instructions given one by one, as assembly text, or both, and further
types. Nothing in a snapshot has been checked beyond its shape.
-/

namespace Devirt.Snapshot

/-- An instruction as it is handed over. -/
structure InstructionEntry where
  label : Option String := none
  address : Address
  modifier : Option String := none
  mnemonic : String
  operands : List String := []
  comments : List String := []
deriving DecidableEq, Repr

/-- A method as it is handed over. The assembly text comes behind the instructions. -/
structure MethodEntry where
  member : Member
  callSites : List CallSite := []
  instructions : List InstructionEntry := []
  assembly : Option String := none
deriving DecidableEq, Repr

/-- A class as it is handed over. -/
structure ClassEntry where
  info : TypeInfo
  package : String
  methods : List MethodEntry := []
deriving DecidableEq, Repr

/-- A package as it is handed over. -/
structure PackageEntry where
  name : String
  parent : Option String := none
  children : List String := []
  classes : List ClassEntry := []
deriving DecidableEq, Repr

end Devirt.Snapshot

namespace Devirt

/-- A program as it is handed over, with the types known beyond its classes. -/
structure Snapshot where
  packages : List Snapshot.PackageEntry
  types : List TypeInfo := []
deriving DecidableEq, Repr

end Devirt
