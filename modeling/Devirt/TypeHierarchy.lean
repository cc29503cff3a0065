import Devirt.Member
import Devirt.NameIndex

/-!
# Type hierarchy

The classes and interfaces that are known, and who extends or implements whom. The hierarchy
is closed: a type that was not registered does not exist for it, so what it says about the
receivers of a call holds for the registered types only. Types may name types that are not
registered, or not yet. The first registration of a name counts, and later ones change nothing.

`monomorphism?` says why a call can reach only one implementation, if the hierarchy shows it.
-/

namespace Devirt

/-- The declared shape of a class or interface. -/
structure TypeInfo where
  name : String
  superclass : Option String := none
  interfaces : List String := []
  isFinal : Bool := false
  isInterface : Bool := false
  finalMethods : List String := []
deriving DecidableEq, Repr

/-- Why a call can reach only one implementation. -/
inductive Monomorphism
  | singleImplementor (className : String)
  | finalClass (className : String)
  | finalMethod (member : Member)
  | noSubclasses (className : String)
deriving DecidableEq, Repr

/-- The reason in words. -/
def Monomorphism.text : Monomorphism → String
  | singleImplementor className => "single implementor " ++ className
  | finalClass className => "receiver class " ++ className ++ " is final"
  | finalMethod member => "method " ++ member.fullName ++ " is final"
  | noSubclasses className => "no loaded subclasses of " ++ className

/-- The registered types in the order of registration, the classes directly beneath each class
and interface, and the interfaces directly beneath each interface. -/
structure TypeHierarchy where
  types : List TypeInfo := []
  subclasses : NameIndex := {}
  implementors : NameIndex := {}
  subinterfaces : NameIndex := {}
deriving DecidableEq, Repr

namespace TypeHierarchy

/-- The type registered under a name. -/
def get? (hierarchy : TypeHierarchy) (name : String) : Option TypeInfo :=
  hierarchy.types.find? (·.name == name)

/-- The number of registered types. -/
def size (hierarchy : TypeHierarchy) : Nat := hierarchy.types.length

/-- The classes that name the class as their superclass, in the order of registration. -/
def directSubclasses (hierarchy : TypeHierarchy) (name : String) : List String :=
  hierarchy.subclasses.names name

/-- The classes that list the interface, in the order of registration. A class that lists it
twice is there twice. -/
def directImplementors (hierarchy : TypeHierarchy) (name : String) : List String :=
  hierarchy.implementors.names name

/-- The interfaces that list the interface, in the order of registration. -/
def directSubinterfaces (hierarchy : TypeHierarchy) (name : String) : List String :=
  hierarchy.subinterfaces.names name

/-- The index with the name under every one of the keys. -/
def addUnder (index : NameIndex) (name : String) (keys : List String) : NameIndex :=
  keys.foldl (fun index key => index.add key name) index

/-- The hierarchy with the type registered, unless its name is already. -/
def add (hierarchy : TypeHierarchy) (info : TypeInfo) : TypeHierarchy :=
  if (hierarchy.get? info.name).isSome then hierarchy
  else if info.isInterface then
    { hierarchy with
      types := hierarchy.types ++ [info]
      subinterfaces := addUnder hierarchy.subinterfaces info.name info.interfaces }
  else
    { hierarchy with
      types := hierarchy.types ++ [info]
      subclasses := addUnder hierarchy.subclasses info.name info.superclass.toList
      implementors := addUnder hierarchy.implementors info.name info.interfaces }

/-- The hierarchy of the types, registered in order. -/
def ofList (types : List TypeInfo) : TypeHierarchy := types.foldl add {}

/-- Why a call of the interface's methods can reach only one class. -/
def interfaceMonomorphism? (hierarchy : TypeHierarchy) (name : String) : Option Monomorphism :=
  if hierarchy.directSubinterfaces name ≠ [] then none
  else match hierarchy.directImplementors name with
    | [only] =>
      if hierarchy.directSubclasses only = [] then some (.singleImplementor only) else none
    | _ => none

/-- Why a call of the member on the class can reach only one implementation. -/
def classMonomorphism? (hierarchy : TypeHierarchy) (info : TypeInfo) (target : Member) :
    Option Monomorphism :=
  if info.isFinal then some (.finalClass info.name)
  else if target.name ∈ info.finalMethods then some (.finalMethod target)
  else if hierarchy.directSubclasses info.name = [] then some (.noSubclasses info.name)
  else none

/-- Why a call of the member can reach only one implementation. -/
def monomorphism? (hierarchy : TypeHierarchy) (target : Member) : Option Monomorphism :=
  match hierarchy.get? target.className with
  | none => none
  | some info =>
    if info.isInterface then hierarchy.interfaceMonomorphism? info.name
    else hierarchy.classMonomorphism? info target

end TypeHierarchy

end Devirt
