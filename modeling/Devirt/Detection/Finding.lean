import Devirt.Instruction.Basic
import Devirt.Member

/-!
# Findings

A call site that the compiler resolved, with what shows it and where.
-/

namespace Devirt.Detection

/-- An optimized call: the call site, the evidence, and the address of the instruction that the
evidence was read from. -/
structure Finding where
  caller : Member
  offset : UInt32
  kind : CallKind
  target : Member
  evidence : String
  address : Address
deriving DecidableEq, Repr

/-- The caller with the bytecode offset of the call. -/
def Finding.place (finding : Finding) : String :=
  finding.caller.fullName ++ "@" ++ toString finding.offset.toNat

/-- The finding in one line. -/
def Finding.text (finding : Finding) : String :=
  finding.place ++ " " ++ finding.kind.opcode ++ " -> " ++ finding.target.fullName ++
    " [" ++ finding.evidence ++ "] at " ++ Address.text finding.address

end Devirt.Detection
