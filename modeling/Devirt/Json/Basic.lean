import Devirt.Text.Numeral

/-!
# JSON values

Values keep all that their text says. A number is kept digit for digit, since addresses need
all of 64 bits. An object keeps its fields in order, with repetitions. A string literal may
hold half of a surrogate pair as an escape; such a literal is JSON, but it has no text.

`fitsWithin` says whether a value can be taken out of its text at all: every string has a text,
every number is finite as a double, and arrays and objects are not nested too deeply.
-/

namespace Devirt

/-- A number literal: sign, digits in front of the point and behind it, and the exponent. -/
structure JsonNumber where
  negative : Bool := false
  whole : Nat
  fraction : List (Fin 10) := []
  exponent : Option Int := none
deriving DecidableEq, Repr

/-- A JSON value. A literal without a text has `none` for it. -/
inductive Json
  | null
  | bool (value : Bool)
  | number (value : JsonNumber)
  | string (text : Option String)
  | array (items : List Json)
  | object (fields : List (Option String × Json))

namespace JsonNumber

/-- The natural number that a literal without sign, point and exponent stands for. -/
def natural? (number : JsonNumber) : Option Nat :=
  if number.negative ∨ number.fraction ≠ [] ∨ number.exponent ≠ none then none
  else some number.whole

/-- The digits of the literal, without regard to its point. -/
def digits (number : JsonNumber) : List Nat :=
  (Text.decimal number.whole).map (fun c => c.toNat - '0'.toNat) ++ number.fraction.map Fin.val

/-- The number of the longest beginning of the digits that fits 64 bits, and its length. -/
def significand (value length : Nat) : List Nat → Nat × Nat
  | [] => (value, length)
  | digit :: rest =>
    if 10 * value + digit < UInt64.size then significand (10 * value + digit) (length + 1) rest
    else (value, length)

/-- The nearest number with at most 53 binary digits in front of its zeros. A tie goes to the
even one. -/
def roundToDouble (n : Nat) : Nat :=
  let unit := Nat.pow 2 (n.log2 - 52)
  let quotient := n / unit
  let rest := n % unit
  if 2 * rest < unit ∨ (2 * rest = unit ∧ quotient % 2 = 0) then quotient * unit
  else (quotient + 1) * unit

/-- Whether the literal is finite as a double. The digits and the power of ten are rounded
first, and then their product. -/
def isFinite (number : JsonNumber) : Bool :=
  let (value, length) := significand 0 0 number.digits
  let power := number.exponent.getD 0 + (Text.decimal number.whole).length - length
  if value = 0 ∨ power ≤ 0 then true
  else if 308 < power then false
  else roundToDouble value * roundToDouble (Nat.pow 10 power.toNat) <
    Nat.pow 2 1024 - Nat.pow 2 970

end JsonNumber

namespace Json

/-- The string with a text. -/
def text (s : String) : Json := .string (some s)

/-- A natural number. -/
def natural (n : Nat) : Json := .number { whole := n }

/-- The text of a string, or null. -/
def optional : Option String → Json
  | none => .null
  | some s => text s

/-- An array of strings. -/
def texts (strings : List String) : Json := .array (strings.map text)

/-- An object with the fields in order. -/
def record (fields : List (String × Json)) : Json :=
  .object (fields.map fun (key, value) => (some key, value))

mutual

/-- Whether the value has texts, finite numbers, and no more nested arrays and objects than
the given number. -/
def fitsWithin (depth : Nat) : Json → Bool
  | .null => true
  | .bool _ => true
  | .number value => value.isFinite
  | .string text => text.isSome
  | .array items => match depth with
    | 0 => false
    | depth + 1 => itemsFitWithin depth items
  | .object fields => match depth with
    | 0 => false
    | depth + 1 => fieldsFitWithin depth fields

/-- Whether every item fits within the depth. -/
def itemsFitWithin (depth : Nat) : List Json → Bool
  | [] => true
  | item :: rest => fitsWithin depth item && itemsFitWithin depth rest

/-- Whether every field fits within the depth, and its key has a text. -/
def fieldsFitWithin (depth : Nat) : List (Option String × Json) → Bool
  | [] => true
  | (key, value) :: rest => key.isSome && fitsWithin depth value && fieldsFitWithin depth rest

end

end Json

end Devirt
