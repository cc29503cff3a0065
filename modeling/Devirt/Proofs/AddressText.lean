import Mathlib.Data.Nat.Digits.Defs
import Devirt.Instruction.Basic

/-!
# Addresses read back

The text of an address is a prefix and hexadecimal digits, and reading the digits gives the
address again. Zeros in front do not count, so this holds for the filled form as well.
-/

namespace Devirt

namespace Text

/-- The hexadecimal digit of a value has that value. -/
theorem hexValue?_digitChar {n : Nat} (lt : n < 16) : hexValue? n.digitChar = some n := by
  have each : ∀ n ∈ List.range 16, hexValue? n.digitChar = some n := by decide
  exact each n (List.mem_range.mpr lt)

/-- A number below sixteen is one digit. -/
theorem hex_of_lt {n : Nat} (lt : n < 16) : hex n = [n.digitChar] := Nat.toDigits_of_lt_base lt

/-- Sixteen times a number and a digit more is the number with the digit behind it. -/
theorem hex_append_digit {m k : Nat} (pos : 0 < m) (lt : k < 16) :
    hex (16 * m + k) = hex m ++ [k.digitChar] := by
  rw [hex, ← Nat.toDigits_append_toDigits (by decide) pos lt, Nat.toDigits_of_lt_base lt, hex]

/-- Digits are read on from what stands before them. -/
theorem readHexFrom?_append (before : Nat) (front back : List Char) :
    readHexFrom? before (front ++ back) =
      (readHexFrom? before front).bind fun read => readHexFrom? read back := by
  induction front generalizing before with
  | nil => rfl
  | cons c front ih =>
    simp only [List.cons_append, readHexFrom?]
    cases hexValue? c with
    | none => rfl
    | some value => exact ih (16 * before + value)

/-- Zeros in front do not count. -/
theorem readHexFrom?_zeros (count : Nat) (cs : List Char) :
    readHexFrom? 0 (List.replicate count '0' ++ cs) = readHexFrom? 0 cs := by
  induction count with
  | zero => rfl
  | succ count ih => exact ih

/-- Reading a number's digits gives the number. -/
theorem readHexFrom?_hex (n : Nat) : readHexFrom? 0 (hex n) = some n := by
  induction n using Nat.base_induction 16 (by decide) with
  | single m lt => simp [hex_of_lt lt, readHexFrom?, hexValue?_digitChar lt]
  | digit m k lt pos ih =>
    rw [hex_append_digit pos lt, readHexFrom?_append, ih]
    simp [readHexFrom?, hexValue?_digitChar lt]

/-- Every character of a number in hexadecimal is a hexadecimal digit. -/
theorem isHexDigit_of_mem_hex {n : Nat} {c : Char} (mem : c ∈ hex n) : isHexDigit c = true := by
  induction n using Nat.base_induction 16 (by decide) with
  | single m lt =>
    rw [hex_of_lt lt, List.mem_singleton] at mem
    rw [mem, isHexDigit, hexValue?_digitChar lt, Option.isSome_some]
  | digit m k lt pos ih =>
    rw [hex_append_digit pos lt, List.mem_append, List.mem_singleton] at mem
    rcases mem with mem | rfl
    · exact ih mem
    · rw [isHexDigit, hexValue?_digitChar lt, Option.isSome_some]

/-- So is every character of the filled form. -/
theorem isHexDigit_of_mem_hexPadded {width n : Nat} {c : Char} (mem : c ∈ hexPadded width n) :
    isHexDigit c = true := by
  rcases List.mem_append.mp mem with mem | mem
  · rw [(List.mem_replicate.mp mem).2]
    rfl
  · exact isHexDigit_of_mem_hex mem

/-- Some digit is always written. -/
theorem hexPadded_ne_nil (width n : Nat) : hexPadded width n ≠ [] :=
  fun empty => Nat.toDigits_ne_nil (List.append_eq_nil_iff.mp empty).2

/-- Reading the filled form gives the number. -/
theorem readHex?_hexPadded (width n : Nat) : readHex? (hexPadded width n) = some n := by
  rw [readHex?, if_neg (hexPadded_ne_nil width n), hexPadded, readHexFrom?_zeros,
    readHexFrom?_hex]

/-- The filled form has the width asked for, if the number fits. -/
theorem length_hexPadded {width n : Nat} (pos : 0 < width) (fits : n < 16 ^ width) :
    (hexPadded width n).length = width := by
  have narrow : (hex n).length ≤ width := (Nat.length_toDigits_le_iff (by decide) pos).mpr fits
  rw [hexPadded, List.length_append, List.length_replicate, Nat.sub_add_cancel narrow]

end Text

/-- The text of an address holds a prefix and hexadecimal digits. -/
theorem Address.toList_text (address : Address) :
    (Address.text address).toList = '0' :: 'x' :: Text.hexPadded 16 address.toNat := by
  simp [Address.text]

/-- Every address is written in eighteen characters. -/
theorem Address.length_text (address : Address) : (Address.text address).length = 18 := by
  have digits : (Text.hexPadded 16 address.toNat).length = 16 :=
    Text.length_hexPadded (by decide) address.toNat_lt
  rw [← String.length_toList, toList_text, List.length_cons, List.length_cons, digits]

end Devirt
