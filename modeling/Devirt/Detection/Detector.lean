import Devirt.Detection.Finding
import Devirt.Detection.Marker
import Devirt.Method
import Devirt.Scope.OffsetIndex
import Devirt.TypeHierarchy

/-!
# Finding optimized calls

A dispatched call site is reported when the code emitted for it shows that its target was
selected by the compiler. Only instructions that belong to the call itself are asked, not the
code of callees inlined there. A remark of a dispatch decides against the call site, whatever
else is remarked. Otherwise a marker decides for it; the first marker in the first such remark
of the first such instruction is the evidence. Without a marker, a type hierarchy may show that
the call can reach only one implementation.

A method has at most one finding at an offset, and findings ascend by offset. Of several
dispatched call sites at one offset the first counts.
-/

namespace Devirt.Detection

/-- What is looked for, and the hierarchy to ask when nothing is found. -/
structure Detector where
  markers : List Marker := builtinMarkers
  hierarchy : Option TypeHierarchy := none

/-- The evidence for an optimized call, and the address of the instruction that shows it. -/
structure Evidence where
  text : String
  address : Address
deriving DecidableEq, Repr

/-- The first dispatched call site of every offset, ascending by offset. -/
def candidates (method : Method) : List CallSite :=
  method.dispatchedSites.foldl
    (fun sites site => insertAscending CallSite.offset (fun older _ => older) site sites) []

/-- The instructions at the emissions' positions. -/
def emitted (method : Method) (emissions : List Scope.Emission) : List Instruction :=
  emissions.filterMap fun emission => method.instructions[emission.position]?

/-- Whether a remark about one of the instructions shows a dispatch. -/
def hasDispatch (instructions : List Instruction) : Bool :=
  instructions.any fun instruction => instruction.remarks.any showsDispatch

namespace Detector

/-- The detector that looks for one text more. Blanks at its ends do not count. A blank text,
or one whose lowercase form is already looked for, changes nothing. -/
def addMarker (detector : Detector) (text : String) : Detector :=
  let marker := Marker.ofText (Text.trimmed text)
  if marker.text = "" ∨ detector.markers.any (·.needle == marker.needle) then detector
  else { detector with markers := detector.markers ++ [marker] }

/-- Whether there is a hierarchy to ask. -/
def hasHierarchy (detector : Detector) : Bool := detector.hierarchy.isSome

/-- The detector without a hierarchy that looks for the built-in markers and the given texts. -/
def ofMarkers (texts : List String) : Detector := texts.foldl addMarker {}

/-- The evidence in the remarks about the instructions. -/
def markerEvidence? (detector : Detector) (instructions : List Instruction) : Option Evidence :=
  instructions.findSome? fun instruction =>
    (instruction.remarks.findSome? (markerIn? detector.markers)).map fun marker =>
      ⟨marker.text, instruction.address⟩

/-- The evidence of the hierarchy. It stands at the first instruction of the call itself, or
else at the first one of an inlined callee. -/
def hierarchyEvidence? (detector : Detector) (target : Member)
    (direct all : List Instruction) : Option Evidence := do
  let hierarchy ← detector.hierarchy
  let reason ← hierarchy.monomorphism? target
  let instruction ← direct.head?.or all.head?
  some ⟨reason.text, instruction.address⟩

/-- The evidence for a call of the target, given the instructions emitted for it. -/
def evidence? (detector : Detector) (method : Method) (target : Member)
    (emissions : List Scope.Emission) : Option Evidence :=
  let direct := emitted method (emissions.filter (!·.inlined))
  if hasDispatch direct then none
  else (detector.markerEvidence? direct).or
    (detector.hierarchyEvidence? target direct (emitted method emissions))

/-- The finding at a call site. -/
def finding? (detector : Detector) (method : Method) (index : Scope.OffsetIndex)
    (site : CallSite) : Option Finding := do
  let emissions ← index.find? site.offset
  let evidence ← detector.evidence? method site.target emissions
  some ⟨method.member, site.offset, site.kind, site.target, evidence.text, evidence.address⟩

/-- The optimized calls of a method, ascending by offset. -/
def find (detector : Detector) (method : Method) : List Finding :=
  let index := Scope.OffsetIndex.ofInstructions method.member method.instructions
  (candidates method).filterMap (detector.finding? method index)

end Detector

end Devirt.Detection
