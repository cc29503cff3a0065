import Devirt.Proofs.Findings

/-!
# What a finding depends on

What is found at an offset depends on the first dispatched call site there and on the instructions
that are linked to the offset, in the order of the code. Of these instructions it matters where
they stand, which of them belong to the call itself, and what is remarked about those. The
positions of the instructions, the rest of the code and the calls at other offsets have no part in
it, even where one instruction is linked to several offsets.

The statements are about two methods that agree in what matters. How the links of an instruction
are read off its label and its comment lines is left aside.
-/

namespace Devirt

open Scope (linkedAt?)

/-- What an instruction says as evidence: where it stands and what is remarked about it. -/
def Instruction.testimony (instruction : Instruction) : Address × List String :=
  (instruction.address, instruction.remarks)

/-- Instructions that say the same stand at the same addresses. -/
theorem map_address_of_testimony {code other : List Instruction}
    (same : code.map Instruction.testimony = other.map Instruction.testimony) :
    code.map (·.address) = other.map (·.address) := by
  have firsts := congrArg (List.map Prod.fst) same
  rw [List.map_map, List.map_map] at firsts
  exact firsts

/-- The code of the call itself is a part of all code that is linked to the call. -/
theorem Method.directlyLinkedTo_eq_filter (method : Method) (offset : UInt32) :
    method.directlyLinkedTo offset =
      (method.linkedTo offset).filter (linkedAt? method.member offset · == some false) := by
  rw [directlyLinkedTo, linkedTo, List.filter_filter]
  congr 1
  funext instruction
  cases linkedAt? method.member offset instruction <;> simp

namespace Detection

/-- Whether a dispatch is shown depends on what the instructions say. -/
theorem hasDispatch_congr {code other : List Instruction}
    (same : code.map Instruction.testimony = other.map Instruction.testimony) :
    hasDispatch code = hasDispatch other := by
  have read (code : List Instruction) : hasDispatch code =
      (code.map Instruction.testimony).any fun said => said.2.any showsDispatch := by
    rw [List.any_map]
    rfl
  rw [read, read, same]

namespace Detector

variable {method other : Method} {offset : UInt32}

/-- The evidence of the markers depends on what the instructions say. -/
theorem markerEvidence?_congr (detector : Detector) {code other : List Instruction}
    (same : code.map Instruction.testimony = other.map Instruction.testimony) :
    detector.markerEvidence? code = detector.markerEvidence? other := by
  have read (code : List Instruction) : detector.markerEvidence? code =
      (code.map Instruction.testimony).findSome? fun said =>
        (said.2.findSome? (markerIn? detector.markers)).map fun marker =>
          ⟨marker.text, said.1⟩ := by
    rw [List.findSome?_map]
    rfl
  rw [read, read, same]

/-- The evidence of the hierarchy depends on where the instructions stand. -/
theorem hierarchyEvidence?_congr (detector : Detector) (target : Member)
    {direct direct' all all' : List Instruction}
    (sameDirect : direct.map (·.address) = direct'.map (·.address))
    (sameAll : all.map (·.address) = all'.map (·.address)) :
    detector.hierarchyEvidence? target direct all =
      detector.hierarchyEvidence? target direct' all' := by
  have read (direct all : List Instruction) (reason : String) :
      (direct.head?.or all.head?).bind (fun instruction =>
        some (⟨reason, instruction.address⟩ : Evidence)) =
      ((direct.map (·.address)).head?.or (all.map (·.address)).head?).map
        (Evidence.mk reason) := by
    cases direct <;> cases all <;> simp
  simp only [hierarchyEvidence?, Option.bind_eq_bind, read, sameDirect, sameAll]

/-- The evidence at a call site depends on what the code of the call itself says and on where all
code stands that is linked to the call. -/
theorem evidenceAt?_congr (detector : Detector) {site : CallSite}
    (sameDirect : (method.directlyLinkedTo site.offset).map Instruction.testimony =
      (other.directlyLinkedTo site.offset).map Instruction.testimony)
    (sameLinked : (method.linkedTo site.offset).map (·.address) =
      (other.linkedTo site.offset).map (·.address)) :
    detector.evidenceAt? method site = detector.evidenceAt? other site := by
  rw [evidenceAt?, evidenceAt?, hasDispatch_congr sameDirect,
    markerEvidence?_congr detector sameDirect,
    hierarchyEvidence?_congr detector site.target (map_address_of_testimony sameDirect) sameLinked]

/-- A finding names no more of a method than its member. -/
theorem findingOf_congr (sameMember : method.member = other.member) :
    findingOf method = findingOf other := by
  funext site evidence
  rw [findingOf, findingOf, sameMember]

/-- What is found at an offset depends on the call site that counts there, on what the code of the
call itself says and on where all code stands that is linked to the call. -/
theorem filter_find_congr (detector : Detector) (sameMember : method.member = other.member)
    (sameSite : method.siteAt? offset = other.siteAt? offset)
    (sameDirect : (method.directlyLinkedTo offset).map Instruction.testimony =
      (other.directlyLinkedTo offset).map Instruction.testimony)
    (sameLinked : (method.linkedTo offset).map (·.address) =
      (other.linkedTo offset).map (·.address)) :
    (detector.find method).filter (·.offset == offset) =
      (detector.find other).filter (·.offset == offset) := by
  rw [filter_find, filter_find, ← sameSite]
  cases stands : method.siteAt? offset with
  | none => rfl
  | some site =>
    have placed := (Method.siteAt?_eq_some stands).2
    subst placed
    rw [Option.bind_some, Option.bind_some, evidenceAt?_congr detector sameDirect sameLinked,
      findingOf_congr sameMember]

/-- What is found in a method depends on its call sites and, of each instruction, on its links and
on what it says. -/
theorem find_congr (detector : Detector) (sameMember : method.member = other.member)
    (sameSites : method.callSites = other.callSites)
    (sameCode : (method.instructions.map fun instruction =>
        (Scope.links method.member instruction, instruction.testimony)) =
      other.instructions.map fun instruction =>
        (Scope.links other.member instruction, instruction.testimony)) :
    detector.find method = detector.find other := by
  -- The code of the call itself and all code linked to it are read off the links in the same way.
  have part (asked : Option Bool → Bool) (offset : UInt32) :
      (method.instructions.filter fun instruction =>
          asked (linkedAt? method.member offset instruction)).map Instruction.testimony =
        (other.instructions.filter fun instruction =>
          asked (linkedAt? other.member offset instruction)).map Instruction.testimony := by
    have read (method : Method) : (method.instructions.filter fun instruction =>
        asked (linkedAt? method.member offset instruction)).map Instruction.testimony =
          ((method.instructions.map fun instruction =>
            (Scope.links method.member instruction, instruction.testimony)).filter fun seen =>
              asked ((seen.1.find? (·.offset == offset)).map (·.inlined))).map Prod.snd := by
      rw [List.filter_map, List.map_map]
      rfl
    rw [read, read, sameCode]
  have evidence (site : CallSite) :
      detector.evidenceAt? method site = detector.evidenceAt? other site :=
    evidenceAt?_congr detector (part (· == some false) site.offset)
      (map_address_of_testimony (part Option.isSome site.offset))
  have sameCandidates : candidates method = candidates other := by
    rw [candidates, candidates, Method.dispatchedSites, Method.dispatchedSites, sameSites]
  simp only [find_eq_filterMap, sameCandidates, evidence, findingOf_congr sameMember]

/-- Calls do not interfere. Where two methods have one name, the same first dispatched call site at
an offset or none, and the same instructions linked to the offset, any detector has the same
finding at the offset or none for both, whatever else stands in their bytecode and their code. -/
theorem calls_do_not_interfere (detector : Detector) {method other : Method} {offset : UInt32}
    (sameMember : method.member = other.member)
    (sameSite : method.siteAt? offset = other.siteAt? offset)
    (sameCode : method.linkedTo offset = other.linkedTo offset) :
    (detector.find method).filter (·.offset == offset) =
      (detector.find other).filter (·.offset == offset) := by
  have sameDirect : method.directlyLinkedTo offset = other.directlyLinkedTo offset := by
    rw [Method.directlyLinkedTo_eq_filter, Method.directlyLinkedTo_eq_filter, sameMember, sameCode]
  exact filter_find_congr detector sameMember sameSite (by rw [sameDirect]) (by rw [sameCode])

/-- A call at two bytecode offsets: the label names one of them, a scope line the other. -/
def sharedCall : Instruction := {
  label := some "@5", address := 64, mnemonic := "call"
  comments := [Comment.ofText "; - Canvas::paint@9 (line 14)",
    Comment.ofText "; direct call"] }

/-- A method with one virtual call. -/
def plainPaint : Method := {
  member := ⟨"Canvas", "paint", "()V"⟩
  callSites := [⟨5, .virtual, ⟨"Shape", "area", "()D"⟩⟩]
  instructions := [sharedCall] }

/-- The method with further calls and further code around that call, a dispatch among it. -/
def crowdedPaint : Method := {
  member := ⟨"Canvas", "paint", "()V"⟩
  callSites := [⟨9, .interface, ⟨"Pen", "draw", "()V"⟩⟩,
    ⟨5, .static, ⟨"Pen", "next", "()V"⟩⟩,
    ⟨5, .virtual, ⟨"Shape", "area", "()D"⟩⟩,
    ⟨5, .interface, ⟨"Pen", "draw", "()V"⟩⟩]
  instructions := [
    { address := 16, mnemonic := "push" },
    { label := some "@9", address := 32, mnemonic := "call"
      comments := [Comment.ofText ";   \x7bvirtual_call\x7d"] },
    sharedCall,
    { label := some "@9", address := 96, mnemonic := "nop" }] }

/-- The finding at one call is the same in the crowd, whatever becomes of the other call. -/
theorem calls_of_crowdedPaint :
    plainPaint.member = crowdedPaint.member ∧
      plainPaint.siteAt? 5 = crowdedPaint.siteAt? 5 ∧
      plainPaint.linkedTo 5 = crowdedPaint.linkedTo 5 ∧
      (({} : Detector).find plainPaint).filter (·.offset == 5) =
        (({} : Detector).find crowdedPaint).filter (·.offset == 5) := by
  have sameSite : plainPaint.siteAt? 5 = crowdedPaint.siteAt? 5 := by decide +kernel
  have sameCode : plainPaint.linkedTo 5 = crowdedPaint.linkedTo 5 := by decide +kernel
  exact ⟨rfl, sameSite, sameCode, calls_do_not_interfere {} rfl sameSite sameCode⟩

end Detector

end Detection

end Devirt
