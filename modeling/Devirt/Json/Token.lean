import Devirt.Json.Basic

/-!
# Tokens of JSON text

The words and marks that JSON text is made of. Blanks between them are the space, the tab, the
line feed and the carriage return, and no others. A number stops where no longer beginning of
the text could be a number, and digits may not be missing where a point or an exponent asks
for them. A string may not hold control characters, and its escapes are checked.

Escapes of surrogates are paired after the string has been read. `tokens` cuts a whole text.
-/

namespace Devirt

/-- A word or mark of JSON text. -/
inductive JsonToken
  | openArray
  | closeArray
  | openObject
  | closeObject
  | comma
  | colon
  | null
  | bool (value : Bool)
  | number (value : JsonNumber)
  | string (text : Option String)
deriving DecidableEq

namespace JsonToken

/-- Whether a character may stand between tokens. -/
def isSpace (c : Char) : Bool := c == ' ' || c == '\t' || c == '\n' || c == '\r'

/-- The first half of a surrogate pair. -/
def isHighSurrogate (unit : Nat) : Bool := 0xD800 ≤ unit && unit < 0xDC00

/-- The second half of a surrogate pair. -/
def isLowSurrogate (unit : Nat) : Bool := 0xDC00 ≤ unit && unit < 0xE000

/-- The character of a surrogate pair. -/
def pairedChar (high low : Nat) : Char :=
  Char.ofNat (0x10000 + (high - 0xD800) * 0x400 + (low - 0xDC00))

/-- The text of code points in which escaped surrogates may occur. It is missing if one of them
has no partner. -/
def joinUnits : List Nat → Option (List Char)
  | [] => some []
  | high :: low :: rest =>
    if isHighSurrogate high then
      if isLowSurrogate low then (joinUnits rest).map (pairedChar high low :: ·) else none
    else if isLowSurrogate high then none
    else (joinUnits (low :: rest)).map (Char.ofNat high :: ·)
  | [unit] =>
    if isHighSurrogate unit || isLowSurrogate unit then none else some [Char.ofNat unit]

/-- The character behind a backslash, other than the escape by code point. -/
def escapedUnit? (c : Char) : Option Nat :=
  if c = '"' ∨ c = '\\' ∨ c = '/' then some c.toNat
  else if c = 'b' then some 8
  else if c = 'f' then some 12
  else if c = 'n' then some 10
  else if c = 'r' then some 13
  else if c = 't' then some 9
  else none

/-- The code points of a string literal up to its closing quote, and what follows the quote. -/
def readUnits? : List Char → Option (List Nat × List Char)
  | [] => none
  | '"' :: rest => some ([], rest)
  | '\\' :: 'u' :: a :: b :: c :: d :: rest => do
    let unit ← Text.readHex? [a, b, c, d]
    let (units, rest) ← readUnits? rest
    some (unit :: units, rest)
  | '\\' :: c :: rest => do
    let unit ← escapedUnit? c
    let (units, rest) ← readUnits? rest
    some (unit :: units, rest)
  | c :: rest =>
    if c = '\\' ∨ c.toNat < 0x20 then none
    else do
      let (units, rest) ← readUnits? rest
      some (c.toNat :: units, rest)

/-- The digits that a text starts with, at least one, and what follows them. -/
def readDigits? (cs : List Char) : Option (List Char × List Char) :=
  let digits := cs.takeWhile Char.isDigit
  if digits = [] then none else some (digits, cs.dropWhile Char.isDigit)

/-- The sign in front of a number. -/
def readMinus : List Char → Bool × List Char
  | '-' :: cs => (true, cs)
  | cs => (false, cs)

/-- A sign in front of an exponent that makes it negative. A plus sign changes nothing. -/
def readSign : List Char → Bool × List Char
  | '+' :: cs => (false, cs)
  | cs => readMinus cs

/-- The digits in front of the point. A zero stands alone. -/
def readWhole? : List Char → Option (Nat × List Char)
  | '0' :: cs => some (0, cs)
  | cs => (readDigits? cs).map fun (digits, cs) => (Nat.ofDigitChars 10 digits 0, cs)

/-- The point and the digits behind it, if there is a point. -/
def readFraction? : List Char → Option (List (Fin 10) × List Char)
  | '.' :: cs => (readDigits? cs).map fun (digits, cs) =>
    (digits.map fun c => Fin.ofNat 10 (c.toNat - '0'.toNat), cs)
  | cs => some ([], cs)

/-- The exponent, if there is one. -/
def readExponent? : List Char → Option (Option Int × List Char)
  | c :: cs =>
    if c = 'e' ∨ c = 'E' then
      let (negative, cs) := readSign cs
      (readDigits? cs).map fun (digits, cs) =>
        let size : Int := Nat.ofDigitChars 10 digits 0
        (some (if negative then -size else size), cs)
    else some (none, c :: cs)
  | [] => some (none, [])

/-- The number that a text starts with. -/
def readNumber? (cs : List Char) : Option (JsonNumber × List Char) := do
  let (negative, cs) := readMinus cs
  let (whole, cs) ← readWhole? cs
  let (fraction, cs) ← readFraction? cs
  let (exponent, cs) ← readExponent? cs
  some (⟨negative, whole, fraction, exponent⟩, cs)

/-- The token that a text starts with. -/
def read? : List Char → Option (JsonToken × List Char)
  | [] => none
  | '[' :: cs => some (openArray, cs)
  | ']' :: cs => some (closeArray, cs)
  | '\x7b' :: cs => some (openObject, cs)
  | '\x7d' :: cs => some (closeObject, cs)
  | ',' :: cs => some (comma, cs)
  | ':' :: cs => some (colon, cs)
  | 'n' :: 'u' :: 'l' :: 'l' :: cs => some (null, cs)
  | 't' :: 'r' :: 'u' :: 'e' :: cs => some (bool true, cs)
  | 'f' :: 'a' :: 'l' :: 's' :: 'e' :: cs => some (bool false, cs)
  | '"' :: cs => (readUnits? cs).map fun (units, cs) =>
    (string ((joinUnits units).map String.ofList), cs)
  | cs => (readNumber? cs).map fun (value, cs) => (number value, cs)

/-- Reading a minus sign puts no character back. -/
theorem length_readMinus (cs : List Char) : (readMinus cs).2.length ≤ cs.length := by
  unfold readMinus
  split <;> simp

/-- Reading a sign puts no character back. -/
theorem length_readSign (cs : List Char) : (readSign cs).2.length ≤ cs.length := by
  unfold readSign
  split
  · simp
  · exact length_readMinus _

/-- Reading a string literal takes at least its closing quote. -/
theorem length_of_readUnits? {cs rest : List Char} {units : List Nat}
    (h : readUnits? cs = some (units, rest)) : rest.length < cs.length := by
  fun_induction readUnits? cs generalizing units with
  | case1 => simp at h
  | case2 => simp_all
  | case3 a b c d cs ih =>
    simp only [Option.bind_eq_bind, Option.bind_eq_some_iff] at h
    obtain ⟨unit, -, ⟨later, behind⟩, read, e⟩ := h
    cases e
    have shorter : behind.length < cs.length := ih read
    simp only [List.length_cons]
    omega
  | case4 c cs _ ih =>
    simp only [Option.bind_eq_bind, Option.bind_eq_some_iff] at h
    obtain ⟨unit, -, ⟨later, behind⟩, read, e⟩ := h
    cases e
    have shorter : behind.length < cs.length := ih read
    simp only [List.length_cons]
    omega
  | case5 => simp at h
  | case6 c cs _ _ _ _ ih =>
    simp only [Option.bind_eq_bind, Option.bind_eq_some_iff] at h
    obtain ⟨⟨later, behind⟩, read, e⟩ := h
    cases e
    have shorter : behind.length < cs.length := ih read
    simp only [List.length_cons]
    omega

/-- Reading digits takes at least one of them. -/
theorem length_of_readDigits? {cs digits rest : List Char}
    (h : readDigits? cs = some (digits, rest)) : rest.length < cs.length := by
  simp only [readDigits?] at h
  split at h
  · cases h
  · rename_i some_digit
    cases h
    have whole := congrArg List.length (List.takeWhile_append_dropWhile (p := Char.isDigit) (l := cs))
    have positive := List.length_pos_iff.2 some_digit
    simp only [List.length_append] at whole
    omega

/-- Reading the digits in front of the point takes at least one of them. -/
theorem length_of_readWhole? {cs rest : List Char} {whole : Nat}
    (h : readWhole? cs = some (whole, rest)) : rest.length < cs.length := by
  unfold readWhole? at h
  split at h
  · cases h
    simp
  · obtain ⟨⟨digits, behind⟩, read, e⟩ := Option.map_eq_some_iff.1 h
    cases e
    exact length_of_readDigits? read

/-- Reading the digits behind the point puts no character back. -/
theorem length_of_readFraction? {cs rest : List Char} {fraction : List (Fin 10)}
    (h : readFraction? cs = some (fraction, rest)) : rest.length ≤ cs.length := by
  unfold readFraction? at h
  split at h
  · obtain ⟨⟨digits, behind⟩, read, e⟩ := Option.map_eq_some_iff.1 h
    cases e
    exact Nat.le_succ_of_le (Nat.le_of_lt (length_of_readDigits? read))
  · cases h
    exact Nat.le_refl _

/-- Reading an exponent puts no character back. -/
theorem length_of_readExponent? {cs rest : List Char} {exponent : Option Int}
    (h : readExponent? cs = some (exponent, rest)) : rest.length ≤ cs.length := by
  unfold readExponent? at h
  split at h
  · rename_i c cs
    split at h
    · obtain ⟨⟨digits, behind⟩, read, e⟩ := Option.map_eq_some_iff.1 h
      cases e
      have shorter := length_of_readDigits? read
      exact Nat.le_succ_of_le (Nat.le_trans (Nat.le_of_lt shorter) (length_readSign cs))
    · cases h
      exact Nat.le_refl _
  · cases h
    exact Nat.le_refl _

/-- Reading a number takes at least one character. -/
theorem length_of_readNumber? {cs rest : List Char} {number : JsonNumber}
    (h : readNumber? cs = some (number, rest)) : rest.length < cs.length := by
  simp only [readNumber?, Option.bind_eq_bind, Option.bind_eq_some_iff] at h
  obtain ⟨⟨whole, behindWhole⟩, hw, ⟨fraction, behindFraction⟩, hf, ⟨exponent, behind⟩, he, e⟩ := h
  cases e
  have minus := length_readMinus cs
  have := length_of_readWhole? hw
  have := length_of_readFraction? hf
  have := length_of_readExponent? he
  simp only at *
  omega

/-- Reading a token takes at least one character. -/
theorem length_of_read? {cs rest : List Char} {token : JsonToken}
    (h : read? cs = some (token, rest)) : rest.length < cs.length := by
  unfold read? at h
  split at h
  case h_1 => cases h
  case h_11 =>
    obtain ⟨⟨units, behind⟩, read, e⟩ := Option.map_eq_some_iff.1 h
    cases e
    exact Nat.lt_succ_of_lt (length_of_readUnits? read)
  case h_12 =>
    obtain ⟨⟨value, behind⟩, read, e⟩ := Option.map_eq_some_iff.1 h
    cases e
    exact length_of_readNumber? read
  all_goals
    cases h
    simp only [List.length_cons]
    omega

/-- The tokens of a text, if there is nothing else in it but blanks. -/
def tokens? (cs : List Char) : Option (List JsonToken) :=
  let text := cs.dropWhile isSpace
  if text = [] then some []
  else match _read : read? text with
    | none => none
    | some (token, rest) => (tokens? rest).map (token :: ·)
termination_by cs.length
decreasing_by
  have fewer := length_of_read? _read
  have shorter := (List.dropWhile_suffix isSpace (l := cs)).length_le
  simp only [text] at fewer
  omega

end JsonToken

end Devirt
