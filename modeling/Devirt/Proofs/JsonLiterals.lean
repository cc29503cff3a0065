import Devirt.Json.Printer
import Devirt.Proofs.AddressText
import Devirt.Proofs.Scanning

/-!
# JSON literals read back

A string literal closes itself: whatever stands behind its closing quote, reading it gives the
text that was written. This covers every escape, since the code points of a text hold no
surrogates. A literal without a text is written as half of a pair, and is read as such.

A number literal is read to its end only if what stands behind it cannot be taken for more of
the number. Its whole part has no leading zeros, which is why a zero may end it at once.
-/

namespace Devirt

namespace JsonNumber

/-- The point and the digits behind it, in the text of a number. -/
def fractionChars (fraction : List (Fin 10)) : List Char :=
  if fraction = [] then [] else '.' :: fraction.map fun digit => Nat.digitChar digit.val

/-- The exponent in the text of a number. -/
def exponentChars : Option Int → List Char
  | none => []
  | some exponent => 'e' :: (if exponent < 0 then ['-'] else []) ++ Text.decimal exponent.natAbs

/-- What may stand behind the text of a number: nothing that could be more of it. -/
def Ends (rest : List Char) : Prop :=
  ∀ c ∈ rest.head?, c.isDigit = false ∧ c ≠ '.' ∧ c ≠ 'e' ∧ c ≠ 'E'

/-- The first character decides it. -/
instance decidableEnds (rest : List Char) : Decidable (Ends rest) :=
  inferInstanceAs (Decidable (∀ c ∈ rest.head?, _))

/-- The digits behind the point start with the point, if there are any. -/
theorem head?_fractionChars_append {fraction : List (Fin 10)} {rest : List Char} {c : Char}
    (mem : c ∈ (fractionChars fraction ++ rest).head?) : c = '.' ∨ c ∈ rest.head? := by
  unfold fractionChars at mem
  split at mem
  · exact .inr mem
  · exact .inl (Option.some.inj mem).symm

/-- The exponent starts with its letter, if there is one. -/
theorem head?_exponentChars_append {exponent : Option Int} {rest : List Char} {c : Char}
    (mem : c ∈ (exponentChars exponent ++ rest).head?) : c = 'e' ∨ c ∈ rest.head? := by
  cases exponent with
  | none => exact .inr mem
  | some exponent => exact .inl (Option.some.inj mem).symm

/-- The text of a number has four parts. -/
theorem render_eq (number : JsonNumber) :
    number.render = (if number.negative then ['-'] else []) ++ Text.decimal number.whole ++
      fractionChars number.fraction ++ exponentChars number.exponent := by
  simp only [render, fractionChars]
  cases number.exponent with
  | none => rfl
  | some exponent => rfl

end JsonNumber

namespace JsonToken

/-- The code point of a character is no half of a surrogate pair. -/
theorem not_isSurrogate_toNat (c : Char) :
    isHighSurrogate c.toNat = false ∧ isLowSurrogate c.toNat = false := by
  have valid : c.toNat < 0xD800 ∨ 0xDFFF < c.toNat ∧ c.toNat < 0x110000 := c.valid
  simp only [isHighSurrogate, isLowSurrogate, Bool.and_eq_false_iff, decide_eq_false_iff_not]
  omega

/-- A character's code point is joined to what follows as the character. -/
theorem joinUnits_cons_toNat (c : Char) (units : List Nat) :
    joinUnits (c.toNat :: units) = (joinUnits units).map (c :: ·) := by
  obtain ⟨notHigh, notLow⟩ := not_isSurrogate_toNat c
  cases units with
  | nil => simp [joinUnits, notHigh, notLow, Char.ofNat_toNat]
  | cons unit rest => simp [joinUnits, notHigh, notLow, Char.ofNat_toNat]

/-- The code points of a text are joined to the text. -/
theorem joinUnits_map_toNat (cs : List Char) : joinUnits (cs.map Char.toNat) = some cs := by
  induction cs with
  | nil => rfl
  | cons c rest ih => rw [List.map_cons, joinUnits_cons_toNat, ih, Option.map_some]

/-- The escape by code point of a control character has four digits. -/
theorem exists_hexPadded_eq {n : Nat} (control : n < 0x20) :
    ∃ a b c d, Text.hexPadded 4 n = [a, b, c, d] := by
  have each : ∀ n ∈ List.range 0x20, (Text.hexPadded 4 n).length = 4 := by decide
  exact List.length_eq_four.mp (each n (List.mem_range.mpr control))

/-- Puts a code point in front of those that have been read. -/
def withUnit (unit : Nat) (read : Option (List Nat × List Char)) : Option (List Nat × List Char) :=
  read.map fun (units, behind) => (unit :: units, behind)

/-- An escape by letter is read as the character it stands for. -/
theorem readUnits?_letter {c : Char} {unit : Nat} (escaped : escapedUnit? c = some unit)
    (rest : List Char) : readUnits? ('\\' :: c :: rest) = withUnit unit (readUnits? rest) := by
  have notU : c ≠ 'u' := by
    intro same
    subst same
    cases escaped
  rw [readUnits?.eq_4 c rest (by simp [notU]), escaped]
  cases readUnits? rest with
  | none => rfl
  | some read => rfl

/-- An escape by code point is read as that code point. -/
theorem readUnits?_hexPadded {n : Nat} (control : n < 0x20) (rest : List Char) :
    readUnits? ('\\' :: 'u' :: Text.hexPadded 4 n ++ rest) = withUnit n (readUnits? rest) := by
  have value := Text.readHex?_hexPadded 4 n
  obtain ⟨a, b, c, d, digits⟩ := exists_hexPadded_eq control
  rw [digits] at value ⊢
  simp only [List.cons_append, List.nil_append, readUnits?, value]
  cases readUnits? rest with
  | none => rfl
  | some read => rfl

/-- Any other character that may stand in a string literal is read as it is. -/
theorem readUnits?_plain {c : Char} (notQuote : c ≠ '"') (notBackslash : c ≠ '\\')
    (notControl : ¬ c.toNat < 0x20) (rest : List Char) :
    readUnits? (c :: rest) = withUnit c.toNat (readUnits? rest) := by
  rw [readUnits?.eq_5 c rest notQuote (by simp [notBackslash]) (by simp [notBackslash])]
  simp only [notBackslash, notControl, or_self, if_false]
  cases readUnits? rest with
  | none => rfl
  | some read => rfl

/-- A character is written as an escape by letter, as one by code point, or as it is. -/
theorem renderChar_cases (c : Char) :
    (∃ letter, renderChar c = ['\\', letter] ∧ escapedUnit? letter = some c.toNat) ∨
      (c.toNat < 0x20 ∧ renderChar c = '\\' :: 'u' :: Text.hexPadded 4 c.toNat) ∨
      (c ≠ '"' ∧ c ≠ '\\' ∧ ¬ c.toNat < 0x20 ∧ renderChar c = [c]) := by
  unfold renderChar
  split_ifs with quote backslash feed carriage tab back form control
  · exact .inl ⟨_, rfl, by rw [quote]; rfl⟩
  · exact .inl ⟨_, rfl, by rw [backslash]; rfl⟩
  · exact .inl ⟨_, rfl, feed ▸ rfl⟩
  · exact .inl ⟨_, rfl, carriage ▸ rfl⟩
  · exact .inl ⟨_, rfl, tab ▸ rfl⟩
  · exact .inl ⟨_, rfl, back ▸ rfl⟩
  · exact .inl ⟨_, rfl, form ▸ rfl⟩
  · exact .inr (.inl ⟨control, rfl⟩)
  · exact .inr (.inr ⟨quote, backslash, control, rfl⟩)

/-- A character that is written in a string literal is read as its code point. -/
theorem readUnits?_renderChar (c : Char) (rest : List Char) :
    readUnits? (renderChar c ++ rest) = withUnit c.toNat (readUnits? rest) := by
  rcases renderChar_cases c with ⟨letter, written, escaped⟩ | ⟨control, written⟩ |
    ⟨notQuote, notBackslash, notControl, written⟩
  · rw [written]
    exact readUnits?_letter escaped rest
  · rw [written]
    exact readUnits?_hexPadded control rest
  · rw [written]
    exact readUnits?_plain notQuote notBackslash notControl rest

/-- A text that is written in a string literal is read as its code points, up to the quote. -/
theorem readUnits?_flatMap_renderChar (cs rest : List Char) :
    readUnits? (cs.flatMap renderChar ++ '"' :: rest) = some (cs.map Char.toNat, rest) := by
  induction cs with
  | nil => simp [readUnits?]
  | cons c cs ih =>
    rw [List.flatMap_cons, List.append_assoc, readUnits?_renderChar, ih, withUnit,
      Option.map_some, List.map_cons]

/-- A string literal is read back, whatever follows it. -/
theorem read?_renderString (text : Option String) (rest : List Char) :
    read? (renderString text ++ rest) = some (string text, rest) := by
  cases text with
  | none => rfl
  | some text =>
    simp only [renderString, List.cons_append, List.append_assoc, List.nil_append, read?]
    rw [readUnits?_flatMap_renderChar, Option.map_some, joinUnits_map_toNat, Option.map_some,
      String.ofList_toList]

/-- Digits that the rest does not continue are read whole. -/
theorem readDigits?_append {digits rest : List Char} (all : ∀ c ∈ digits, c.isDigit = true)
    (notNil : digits ≠ []) (stop : ∀ c ∈ rest.head?, c.isDigit = false) :
    readDigits? (digits ++ rest) = some (digits, rest) := by
  simp only [readDigits?, Text.takeWhile_append_of_stop all stop,
    Text.dropWhile_append_of_stop all stop, notNil, if_false]

/-- The digits of a natural number are read whole. -/
theorem readDigits?_decimal (n : Nat) {rest : List Char}
    (stop : ∀ c ∈ rest.head?, c.isDigit = false) :
    readDigits? (Text.decimal n ++ rest) = some (Text.decimal n, rest) :=
  readDigits?_append (fun _ => Text.isDigit_of_mem_decimal) Nat.toDigits_ne_nil stop

/-- A number starts with a digit, and only zero starts with a zero. -/
theorem exists_decimal_eq (n : Nat) : ∃ first later, Text.decimal n = first :: later ∧
    first.isDigit = true ∧ (first = '0' → n = 0) := by
  induction n using Nat.base_induction 10 (by decide) with
  | single m lt =>
    have each : ∀ m ∈ List.range 10, m.digitChar.isDigit = true ∧ (m.digitChar = '0' → m = 0) := by
      decide
    exact ⟨m.digitChar, [], Nat.toDigits_of_lt_base lt, each m (List.mem_range.mpr lt)⟩
  | digit m k lt pos ih =>
    obtain ⟨first, later, digits, isDigit, zero⟩ := ih
    have longer : Text.decimal (10 * m + k) = Text.decimal m ++ Text.decimal k :=
      (Nat.toDigits_append_toDigits (by decide) pos lt).symm
    refine ⟨first, later ++ Text.decimal k, by rw [longer, digits, List.cons_append], isDigit, ?_⟩
    intro isZero
    exact absurd (zero isZero) (Nat.ne_of_gt pos)

/-- The whole part of a number is read back. -/
theorem readWhole?_decimal (n : Nat) {rest : List Char}
    (stop : ∀ c ∈ rest.head?, c.isDigit = false) :
    readWhole? (Text.decimal n ++ rest) = some (n, rest) := by
  rcases Nat.eq_zero_or_pos n with rfl | positive
  · rfl
  · obtain ⟨first, later, digits, _, zero⟩ := exists_decimal_eq n
    have notZero (cs : List Char) : Text.decimal n ++ rest ≠ '0' :: cs := by
      rw [digits, List.cons_append]
      intro same
      exact absurd (zero (List.cons.inj same).1) (Nat.ne_of_gt positive)
    rw [readWhole?.eq_2 _ notZero, readDigits?_decimal n stop]
    simp [Text.decimal, Nat.ofDigitChars_ten_toDigits]

/-- The digits of a number start with nothing but a digit. -/
theorem decimal_append_ne_cons (n : Nat) (rest : List Char) {c : Char} (notDigit : c.isDigit = false)
    (cs : List Char) : Text.decimal n ++ rest ≠ c :: cs := by
  obtain ⟨first, later, digits, isDigit, _⟩ := exists_decimal_eq n
  rw [digits, List.cons_append]
  intro same
  rw [(List.cons.inj same).1, notDigit] at isDigit
  cases isDigit

/-- A minus sign in front of a number is read, and nothing else is taken for one. -/
theorem readMinus_decimal (negative : Bool) (n : Nat) (rest : List Char) :
    readMinus ((if negative then ['-'] else []) ++ Text.decimal n ++ rest) =
      (negative, Text.decimal n ++ rest) := by
  cases negative with
  | true => rfl
  | false => exact readMinus.eq_2 _ (decimal_append_ne_cons n rest (by decide))

/-- The sign of an exponent is read, and nothing else is taken for one. -/
theorem readSign_decimal (negative : Bool) (n : Nat) (rest : List Char) :
    readSign ((if negative then ['-'] else []) ++ Text.decimal n ++ rest) =
      (negative, Text.decimal n ++ rest) := by
  rw [← readMinus_decimal negative n rest]
  refine readSign.eq_2 _ ?_
  cases negative with
  | true => exact nofun
  | false => exact decimal_append_ne_cons n rest (by decide)

/-- The digits behind the point are read back, if no more of them follow. -/
theorem readFraction?_fractionChars (fraction : List (Fin 10)) {rest : List Char}
    (stop : ∀ c ∈ rest.head?, c.isDigit = false ∧ c ≠ '.') :
    readFraction? (JsonNumber.fractionChars fraction ++ rest) = some (fraction, rest) := by
  have isDigit : ∀ digit : Fin 10, (Nat.digitChar digit.val).isDigit = true := by decide
  have value : ∀ digit : Fin 10,
      Fin.ofNat 10 ((Nat.digitChar digit.val).toNat - '0'.toNat) = digit := by decide
  by_cases empty : fraction = []
  · subst empty
    refine readFraction?.eq_2 _ fun cs same => ?_
    have point : '.' ∈ rest.head? := by simp [show rest = '.' :: cs from same]
    exact (stop '.' point).2 rfl
  · have areDigits : ∀ c ∈ fraction.map fun digit => Nat.digitChar digit.val, c.isDigit = true := by
      simp [isDigit]
    have digits := readDigits?_append areDigits (by simpa using empty) fun c mem => (stop c mem).1
    have values : (fraction.map fun digit => Nat.digitChar digit.val).map
        (fun c => Fin.ofNat 10 (c.toNat - '0'.toNat)) = fraction := by
      rw [List.map_map]
      exact (List.map_congr_left fun digit _ => value digit).trans (List.map_id fraction)
    rw [JsonNumber.fractionChars, if_neg empty, List.cons_append, readFraction?, digits]
    exact congrArg (fun digits => some (digits, rest)) values

/-- The exponent is read back, if nothing follows that could be one or more of it. -/
theorem readExponent?_exponentChars (exponent : Option Int) {rest : List Char}
    (stop : ∀ c ∈ rest.head?, c.isDigit = false ∧ c ≠ 'e' ∧ c ≠ 'E') :
    readExponent? (JsonNumber.exponentChars exponent ++ rest) = some (exponent, rest) := by
  cases exponent with
  | none =>
    cases rest with
    | nil => rfl
    | cons c cs =>
      obtain ⟨_, lower, upper⟩ := stop c rfl
      simp [JsonNumber.exponentChars, readExponent?, lower, upper]
  | some exponent =>
    have sign := readSign_decimal (decide (exponent < 0)) exponent.natAbs rest
    simp only [decide_eq_true_eq] at sign
    have digits := readDigits?_decimal exponent.natAbs fun c mem => (stop c mem).1
    rw [JsonNumber.exponentChars, List.cons_append, List.cons_append, readExponent?, sign]
    have value : (if exponent < 0 then -(exponent.natAbs : Int) else exponent.natAbs) = exponent := by
      split <;> omega
    simp only [true_or, if_true, digits, Option.map_some]
    simp only [Text.decimal, Nat.ofDigitChars_ten_toDigits, decide_eq_true_eq, value]

/-- A number is read back, if nothing follows that could be more of it. -/
theorem readNumber?_render (number : JsonNumber) {rest : List Char}
    (ends : JsonNumber.Ends rest) : readNumber? (number.render ++ rest) = some (number, rest) := by
  obtain ⟨negative, whole, fraction, exponent⟩ := number
  have behindWhole : ∀ c ∈ (JsonNumber.fractionChars fraction ++
      (JsonNumber.exponentChars exponent ++ rest)).head?, c.isDigit = false := by
    intro c mem
    rcases JsonNumber.head?_fractionChars_append mem with rfl | mem
    · rfl
    rcases JsonNumber.head?_exponentChars_append mem with rfl | mem
    · rfl
    exact (ends c mem).1
  have behindFraction : ∀ c ∈ (JsonNumber.exponentChars exponent ++ rest).head?,
      c.isDigit = false ∧ c ≠ '.' := by
    intro c mem
    rcases JsonNumber.head?_exponentChars_append mem with rfl | mem
    · decide
    exact ⟨(ends c mem).1, (ends c mem).2.1⟩
  have behindExponent : ∀ c ∈ rest.head?, c.isDigit = false ∧ c ≠ 'e' ∧ c ≠ 'E' :=
    fun c mem => ⟨(ends c mem).1, (ends c mem).2.2⟩
  rw [JsonNumber.render_eq, List.append_assoc, List.append_assoc, readNumber?, readMinus_decimal]
  simp only [readWhole?_decimal whole behindWhole,
    readFraction?_fractionChars fraction behindFraction,
    readExponent?_exponentChars exponent behindExponent, Option.bind_eq_bind, Option.bind_some]

/-- A digit is no blank. -/
theorem isSpace_of_isDigit {c : Char} (isDigit : c.isDigit = true) : isSpace c = false := by
  rw [← Bool.not_eq_true]
  intro space
  simp only [isSpace, Bool.or_eq_true, beq_iff_eq] at space
  rcases space with ((rfl | rfl) | rfl) | rfl <;> cases isDigit

/-- A number starts with a minus sign or a digit. -/
theorem exists_render_number_eq (number : JsonNumber) : ∃ first later,
    number.render = first :: later ∧ (first = '-' ∨ first.isDigit = true) := by
  obtain ⟨first, later, digits, isDigit, _⟩ := exists_decimal_eq number.whole
  rw [JsonNumber.render_eq, digits]
  cases number.negative with
  | true => exact ⟨_, _, rfl, .inl rfl⟩
  | false => exact ⟨_, _, rfl, .inr isDigit⟩

/-- What starts with a minus sign or a digit is read as a number. -/
theorem read?_of_startsNumber {first : Char} (starts : first = '-' ∨ first.isDigit = true)
    (later : List Char) : read? (first :: later) =
      (readNumber? (first :: later)).map fun (value, behind) => (number value, behind) := by
  have other {c : Char} (notMinus : c ≠ '-') (notDigit : c.isDigit = false) : first ≠ c := by
    rintro rfl
    simp [notMinus, notDigit] at starts
  apply read?.eq_12
  · exact nofun
  all_goals
    intro cs same
    obtain ⟨same, _⟩ := List.cons.inj same
    exact other (by decide) (by decide) same

end JsonToken

end Devirt
