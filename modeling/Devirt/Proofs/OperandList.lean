import Devirt.Proofs.OperandCuts

/-!
# Operand lists read back

Operands are written with a comma and a space between neighbours. They are read back one by one
when each of them closes the brackets that it opens, closes no other, and has commas inside its
brackets only.
-/

namespace Devirt.Assembly

/-- Whether a text closes the brackets that are open in front of it and those it opens, closes no
other, and has commas only where a bracket is open. -/
def isEnclosed (depth : Int) : List Char → Bool
  | [] => depth == 0
  | c :: cs =>
    decide (0 ≤ depth) && (c ≠ ',' || decide (0 < depth)) && isEnclosed (depth + bracketStep c) cs

/-- A text that is written and read as one operand. -/
structure IsOperandText (cs : List Char) : Prop where
  notNil : cs ≠ []
  bare : Text.HasBareEnds cs
  enclosed : isEnclosed 0 cs = true

instance : DecidablePred IsOperandText := fun cs =>
  decidable_of_iff (cs ≠ [] ∧ Text.HasBareEnds cs ∧ isEnclosed 0 cs = true)
    ⟨fun ⟨notNil, bare, enclosed⟩ => ⟨notNil, bare, enclosed⟩,
      fun operand => ⟨operand.notNil, operand.bare, operand.enclosed⟩⟩

section

variable {depth : Int} {cs : List Char} {texts : List (List Char)}

/-- A text is enclosed when its first character is no separating comma and the rest is enclosed. -/
theorem isEnclosed_cons_iff {c : Char} :
    isEnclosed depth (c :: cs) = true ↔
      0 ≤ depth ∧ ¬ (c = ',' ∧ depth ≤ 0) ∧ isEnclosed (depth + bracketStep c) cs = true := by
  simp [isEnclosed, and_assoc, imp_iff_not_or]

/-- An enclosed text closes the brackets that are open in front of it and those it opens. -/
theorem openBrackets_of_isEnclosed (enclosed : isEnclosed depth cs = true) :
    depth + openBrackets cs = 0 := by
  induction cs generalizing depth with
  | nil => simpa [isEnclosed, openBrackets] using enclosed
  | cons c cs ih =>
    rw [openBrackets_cons, ← Int.add_assoc]
    exact ih (isEnclosed_cons_iff.mp enclosed).2.2

/-- No comma separates in an enclosed text. -/
theorem isWhole_of_isEnclosed (enclosed : isEnclosed depth cs = true) : IsWhole depth cs := by
  induction cs generalizing depth with
  | nil => exact isWhole_nil depth
  | cons c cs ih =>
    obtain ⟨_, kept, behind⟩ := isEnclosed_cons_iff.mp enclosed
    exact isWhole_cons_iff.mpr ⟨kept, ih behind⟩

/-- Operands are read back. -/
theorem operands_joinOperands (each : ∀ text ∈ texts, IsOperandText text) :
    operands (joinOperands texts) = texts := by
  apply operands_joinOperands_of_isCut
  · refine isCut_of_forall fun text mem => ⟨?_, isWhole_of_isEnclosed (each text mem).enclosed⟩
    simpa using openBrackets_of_isEnclosed (each text mem).enclosed
  · exact fun text mem => ⟨(each text mem).notNil, (each text mem).bare⟩

/-- Only an empty list of operands is written as nothing. -/
theorem joinOperands_eq_nil_iff (each : ∀ text ∈ texts, IsOperandText text) :
    joinOperands texts = [] ↔ texts = [] := by
  apply Iff.intro
  · intro empty
    rw [← operands_joinOperands each, empty]
    rfl
  · rintro rfl
    rfl

/-- A list of operands has no blanks at its ends. -/
theorem hasBareEnds_joinOperands (each : ∀ text ∈ texts, IsOperandText text) :
    Text.HasBareEnds (joinOperands texts) := by
  induction texts with
  | nil => simp [joinOperands, Text.HasBareEnds]
  | cons first rest ih =>
    obtain ⟨own, others⟩ := List.forall_mem_cons.mp each
    cases rest with
    | nil =>
      rw [joinOperands, List.intercalate_singleton]
      exact own.bare
    | cons next rest =>
      have notNil : joinOperands (next :: rest) ≠ [] := fun empty => by
        have shape := joinOperands_eq_nil_iff others
        simp [empty] at shape
      rw [joinOperands_cons_cons]
      refine ⟨?_, ?_⟩
      · rw [List.head?_append_of_ne_nil _ own.notNil]
        exact own.bare.1
      · rw [List.getLast?_append_of_ne_nil _ (List.cons_ne_nil _ _), List.getLast?_cons_cons,
          List.getLast?_cons_of_ne_nil notNil]
        exact (ih others).2

end

end Devirt.Assembly
