/-!
# Members and call sites

A member is a method identity: class, name and descriptor. A call site is an invoke
instruction of some method's bytecode; its kind says how the target is selected. Virtual and
interface calls select it by the receiver's type while the program runs, so only they can be
optimized by removing that selection.
-/

namespace Devirt

/-- A method identity. The class name is dotted; the descriptor may be empty. -/
structure Member where
  className : String
  name : String
  descriptor : String := ""
deriving DecidableEq, Repr

/-- The fully qualified name: class, dot, name, descriptor. -/
def Member.fullName (member : Member) : String :=
  member.className ++ "." ++ member.name ++ member.descriptor

/-- How a call site selects its target. -/
inductive CallKind
  | virtual
  | interface
  | static
  | special
deriving DecidableEq, Repr

namespace CallKind

/-- Whether the receiver's type selects the target. -/
def isDispatched : CallKind → Bool
  | virtual | interface => true
  | static | special => false

/-- The short name of the kind. -/
def name : CallKind → String
  | virtual => "virtual"
  | interface => "interface"
  | static => "static"
  | special => "special"

/-- The bytecode instruction that makes a call of the kind. -/
def opcode : CallKind → String
  | virtual => "invokevirtual"
  | interface => "invokeinterface"
  | static => "invokestatic"
  | special => "invokespecial"

/-- Every kind. -/
def all : List CallKind := [virtual, interface, static, special]

/-- The kind that is spelled by its short name or by its opcode. -/
def ofSpelling? (spelling : String) : Option CallKind :=
  all.find? fun kind => spelling = kind.name ∨ spelling = kind.opcode

/-- Only virtual and interface calls are dispatched. -/
theorem isDispatched_iff (kind : CallKind) :
    kind.isDispatched = true ↔ kind = .virtual ∨ kind = .interface := by
  cases kind <;> decide

/-- A kind is read back from its short name. -/
theorem ofSpelling?_name (kind : CallKind) : ofSpelling? kind.name = some kind := by
  cases kind <;> decide

/-- A kind is read back from its opcode. -/
theorem ofSpelling?_opcode (kind : CallKind) : ofSpelling? kind.opcode = some kind := by
  cases kind <;> decide

end CallKind

/-- An invoke instruction in a method's bytecode. -/
structure CallSite where
  offset : UInt32
  kind : CallKind
  target : Member
deriving DecidableEq, Repr

end Devirt
