import Devirt.Assembly.Parser
import Devirt.Program.Basic
import Devirt.Snapshot.Basic

/-!
# Programs from snapshots

Loading turns the entries of a snapshot into a program. It goes in order and stops at the first
fault: an instruction without a mnemonic, assembly text that cannot be read, or a package whose
name is taken. A method's own instructions come before its assembly text, and a package's
methods before its name.
-/

namespace Devirt

/-- Why a snapshot is no program. -/
inductive LoadError
  | emptyMnemonic (address : Address)
  | assembly (fault : Assembly.Fault)
  | duplicatePackage (duplicate : DuplicatePackage)
deriving DecidableEq, Repr

/-- What is said about a package whose name is taken. -/
def DuplicatePackage.message (duplicate : DuplicatePackage) : String :=
  "Duplicate package in snapshot: " ++ duplicate.name

/-- The error in words. -/
def LoadError.message : LoadError → String
  | emptyMnemonic address => "Instruction at " ++ Address.shortText address ++ " has no mnemonic"
  | assembly fault => fault.message
  | duplicatePackage duplicate => duplicate.message

namespace Snapshot

/-- The instruction of an entry, which must have a mnemonic. -/
def InstructionEntry.load (entry : InstructionEntry) : Except LoadError Instruction :=
  if Text.trimmed entry.mnemonic = "" then .error (.emptyMnemonic entry.address)
  else .ok {
    label := entry.label
    address := entry.address
    modifier := entry.modifier
    mnemonic := entry.mnemonic
    operands := entry.operands
    comments := entry.comments.map Comment.ofText }

/-- The instructions written in assembly text, if there is one. -/
def loadAssembly : Option String → Except LoadError (List Instruction)
  | none => .ok []
  | some text => (Assembly.parse text).mapError .assembly

/-- The method of an entry. -/
def MethodEntry.load (entry : MethodEntry) : Except LoadError Method := do
  let given ← entry.instructions.mapM InstructionEntry.load
  let written ← loadAssembly entry.assembly
  return ⟨entry.member, entry.callSites, given ++ written⟩

/-- The class of an entry. -/
def ClassEntry.load (entry : ClassEntry) : Except LoadError LoadedClass := do
  return ⟨entry.info, entry.package, ← entry.methods.mapM MethodEntry.load⟩

/-- The package of an entry. -/
def PackageEntry.load (entry : PackageEntry) : Except LoadError Package := do
  return ⟨entry.name, entry.parent, entry.children, ← entry.classes.mapM ClassEntry.load⟩

/-- The program with the package of an entry. -/
def insertEntry (program : Program) (entry : PackageEntry) : Except LoadError Program := do
  (program.insert (← entry.load)).mapError .duplicatePackage

/-- The program of the snapshot. -/
def load (snapshot : Snapshot) : Except LoadError Program := do
  let program ← snapshot.packages.foldlM insertEntry {}
  return { program with extraTypes := snapshot.types }

end Snapshot

end Devirt
