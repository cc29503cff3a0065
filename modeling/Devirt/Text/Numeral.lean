/-!
# Numerals

Decimal and hexadecimal numerals in ASCII digits. Reading takes any number of leading zeros
and nothing but digits: no sign, no blank, and no digit of another script. Numbers that must
fit a machine word are read as a natural number first, so too large a number is refused and
never wraps around.
-/

namespace Devirt.Text

/-- The number written by a nonempty run of ASCII decimal digits. -/
def readDecimal? (cs : List Char) : Option Nat :=
  if cs ≠ [] ∧ cs.all Char.isDigit then some (Nat.ofDigitChars 10 cs 0) else none

/-- The value of a hexadecimal digit, in either case. -/
def hexValue? (c : Char) : Option Nat :=
  if c.isDigit then some (c.toNat - '0'.toNat)
  else if 'a' ≤ c ∧ c ≤ 'f' then some (c.toNat - 'a'.toNat + 10)
  else if 'A' ≤ c ∧ c ≤ 'F' then some (c.toNat - 'A'.toNat + 10)
  else none

/-- Whether a character is a hexadecimal digit. -/
def isHexDigit (c : Char) : Bool := (hexValue? c).isSome

/-- The number written by a run of hexadecimal digits, read on from what stands before it. -/
def readHexFrom? (before : Nat) : List Char → Option Nat
  | [] => some before
  | c :: cs => do readHexFrom? (16 * before + (← hexValue? c)) cs

/-- The number written by a nonempty run of hexadecimal digits. -/
def readHex? (cs : List Char) : Option Nat :=
  if cs = [] then none else readHexFrom? 0 cs

/-- The number as a 32-bit word, if it fits. -/
def toUInt32? (n : Nat) : Option UInt32 :=
  if h : n < UInt32.size then some (UInt32.ofNatLT n h) else none

/-- The number as a 64-bit word, if it fits. -/
def toUInt64? (n : Nat) : Option UInt64 :=
  if h : n < UInt64.size then some (UInt64.ofNatLT n h) else none

/-- A number in decimal digits without leading zeros. -/
def decimal (n : Nat) : List Char := Nat.toDigits 10 n

/-- A number in lowercase hexadecimal digits without leading zeros. -/
def hex (n : Nat) : List Char := Nat.toDigits 16 n

/-- A number in hexadecimal digits, filled with zeros in front up to the width. -/
def hexPadded (width n : Nat) : List Char :=
  List.replicate (width - (hex n).length) '0' ++ hex n

/-- A word's own value fits. -/
theorem toUInt32?_toNat (n : UInt32) : toUInt32? n.toNat = some n := by
  simp [toUInt32?, n.toNat_lt_size]

/-- A word's own value fits. -/
theorem toUInt64?_toNat (n : UInt64) : toUInt64? n.toNat = some n := by
  simp [toUInt64?, n.toNat_lt_size]

/-- A number that is too large has no 32-bit word. -/
theorem toUInt32?_eq_some_iff {n : Nat} {w : UInt32} : toUInt32? n = some w ↔ n = w.toNat := by
  constructor
  · intro h
    simp only [toUInt32?] at h
    split at h
    · cases h; simp
    · cases h
  · rintro rfl
    exact toUInt32?_toNat w

/-- A number that is too large has no 64-bit word. -/
theorem toUInt64?_eq_some_iff {n : Nat} {w : UInt64} : toUInt64? n = some w ↔ n = w.toNat := by
  constructor
  · intro h
    simp only [toUInt64?] at h
    split at h
    · cases h; simp
    · cases h
  · rintro rfl
    exact toUInt64?_toNat w

/-- Every digit of a decimal numeral is an ASCII digit. -/
theorem isDigit_of_mem_decimal {n : Nat} {c : Char} (h : c ∈ decimal n) : c.isDigit = true :=
  Nat.isDigit_of_mem_toDigits (by decide) (by decide) h

/-- Reading a decimal numeral gives the number it was written from. -/
theorem readDecimal?_decimal (n : Nat) : readDecimal? (decimal n) = some n := by
  have digits : (decimal n).all Char.isDigit := List.all_eq_true.2 fun _ => isDigit_of_mem_decimal
  simp only [readDecimal?, digits]
  simp [decimal, Nat.toDigits_ne_nil, Nat.ofDigitChars_ten_toDigits]

end Devirt.Text
