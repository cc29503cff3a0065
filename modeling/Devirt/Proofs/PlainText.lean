import Mathlib.Data.List.Basic
import Devirt.Detection.Marker

/-!
# Text that is its own lowercase form

The lowercase form of a character is looked up in a table of ranges. A character that lies
outside all of them is its own lowercase form, and so is a text of such characters. ASCII
characters other than capital letters lie outside all of them, which takes one pass over the
table to see. The built-in markers are texts of this kind.
-/

namespace Devirt

namespace Text

/-- Whether a character is ASCII and no capital letter. -/
def isPlain (c : Char) : Bool := decide (c.toNat < 0x41) || decide (0x5A < c.toNat ∧ c.toNat < 0x80)

/-- A code point outside the ranges of a table is its own lowercase form. -/
theorem lowercaseCode_eq_self {n : Nat} {runs : List (Nat × Nat × Nat × Nat)}
    (outside : ∀ run ∈ runs, n < run.1 ∨ run.2.1 < n) : lowercaseCode n runs = n := by
  induction runs with
  | nil => rfl
  | cons run rest ih =>
    obtain ⟨first, others⟩ := List.forall_mem_cons.mp outside
    have misses : ¬ (run.1 ≤ n ∧ n ≤ run.2.1 ∧ (n - run.1) % run.2.2.1 = 0) := by
      omega
    rw [lowercaseCode, if_neg misses, ih others]

/-- Beyond the capital letters the table has no ASCII characters. -/
theorem lowercaseRuns_beyond_ascii :
    ∀ run ∈ lowercaseRuns, (0x41 ≤ run.1 ∧ run.2.1 = 0x5A) ∨ 0x80 ≤ run.1 := by
  decide +kernel

/-- A plain character is its own lowercase form. -/
theorem lowercaseChar_of_isPlain {c : Char} (plain : isPlain c = true) : lowercaseChar c = [c] := by
  simp only [isPlain, Bool.or_eq_true, decide_eq_true_eq] at plain
  have notDotted : c.toNat ≠ 0x130 := by
    omega
  have outside : ∀ run ∈ lowercaseRuns, c.toNat < run.1 ∨ run.2.1 < c.toNat := by
    intro run mem
    have range := lowercaseRuns_beyond_ascii run mem
    omega
  rw [lowercaseChar, if_neg notDotted, lowercaseCode_eq_self outside, Char.ofNat_toNat]

/-- A plain text is its own lowercase form. -/
theorem lowercased_of_isPlain {s : String} (plain : s.toList.all isPlain = true) :
    lowercased s = s := by
  have each : ∀ c ∈ s.toList, isPlain c = true := List.all_eq_true.mp plain
  have noSigma : 'Σ' ∉ s.toList := fun mem => absurd (each _ mem) (by decide)
  have same : s.toList.flatMap lowercaseChar = s.toList := by
    have single : s.toList.flatMap lowercaseChar = s.toList.flatMap fun c => [c] :=
      List.flatMap_congr fun c mem => lowercaseChar_of_isPlain (each c mem)
    rw [single, List.flatMap_singleton']
  rw [lowercased, lowercase, lowercaseAfter_eq_flatMap noSigma, same, String.ofList_toList]

end Text

namespace Detection

/-- A built-in marker is its own lowercase form. -/
theorem needle_of_mem_builtinMarkers {marker : Marker} (mem : marker ∈ builtinMarkers) :
    marker.needle = marker.text := by
  have plain : ∀ marker ∈ builtinMarkers, marker.text.toList.all Text.isPlain = true := by
    decide +kernel
  obtain ⟨text, _, rfl⟩ := List.mem_map.mp mem
  exact Text.lowercased_of_isPlain (plain _ mem)

/-- The built-in markers can be read off their texts. -/
theorem builtinMarkers_eq_map :
    builtinMarkers = builtinMarkers.map fun marker => ⟨marker.text, marker.text⟩ := by
  have same : ∀ marker ∈ builtinMarkers, (⟨marker.text, marker.text⟩ : Marker) = marker :=
    fun marker mem => congrArg (Marker.mk marker.text) (needle_of_mem_builtinMarkers mem).symm
  rw [List.map_congr_left same, List.map_id']

end Detection

end Devirt
