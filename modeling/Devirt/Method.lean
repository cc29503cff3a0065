import Devirt.Instruction.Basic
import Devirt.Member

/-!
# Methods

A method as the compiler leaves it: who it is, the call sites of its bytecode and its native
instructions. A method without instructions was not compiled.
-/

namespace Devirt

/-- A method with its call sites and its native code. -/
structure Method where
  member : Member
  callSites : List CallSite := []
  instructions : List Instruction := []
deriving DecidableEq

namespace Method

/-- The fully qualified name. -/
def fullName (method : Method) : String := method.member.fullName

/-- Whether the method has native code. -/
def isCompiled (method : Method) : Bool := !method.instructions.isEmpty

/-- A method has native code when it has an instruction. -/
theorem isCompiled_iff {method : Method} : method.isCompiled = true ↔ method.instructions ≠ [] := by
  simp [isCompiled]

/-- The call sites whose target the receiver's type selects. -/
def dispatchedSites (method : Method) : List CallSite :=
  method.callSites.filter (·.kind.isDispatched)

/-- The dispatched call sites are the virtual calls and the interface calls. -/
theorem length_dispatchedSites (method : Method) :
    method.dispatchedSites.length =
      method.callSites.countP fun site => site.kind = .virtual ∨ site.kind = .interface := by
  rw [dispatchedSites, ← List.countP_eq_length_filter]
  refine List.countP_congr fun site _ => ?_
  rw [CallKind.isDispatched_iff, decide_eq_true_eq]

end Method

end Devirt
