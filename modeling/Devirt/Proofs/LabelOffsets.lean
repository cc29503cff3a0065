import Mathlib.Data.List.Chain
import Devirt.Proofs.ScopeGrammar

/-!
# The offset that a label names

A label names the offset that is written behind its first at sign with a number. A number is a run
of digits that is as long as possible and that no word character continues. An at sign with
anything else behind it is passed over.

Every digit is a word character, so a word that ends behind a digit ends behind the whole run, and
of a run that letters continue no shorter part counts. The first number decides alone: if it is too
large or not in ASCII digits, the label names no offset, whatever stands behind.
-/

namespace Devirt

namespace Text

namespace CharRanges

/-- Whether each of the stretches lies in one of the ranges, both in ascending order. -/
def cover : CharRanges → CharRanges → Bool
  | [], stretches => stretches.isEmpty
  | (first, last) :: rest, stretches =>
    cover rest (stretches.dropWhile fun stretch =>
      decide (first ≤ stretch.1) && decide (stretch.2 ≤ last))

variable {ranges stretches : CharRanges} {stretch : Nat × Nat} {n : Nat}

/-- A stretch that is covered lies in one of the ranges. -/
theorem exists_of_cover (covered : cover ranges stretches = true) (mem : stretch ∈ stretches) :
    ∃ range ∈ ranges, range.1 ≤ stretch.1 ∧ stretch.2 ≤ range.2 := by
  induction ranges generalizing stretches with
  | nil =>
    rw [cover, List.isEmpty_iff] at covered
    rw [covered] at mem
    cases mem
  | cons range rest ih =>
    obtain ⟨first, last⟩ := range
    rw [← List.takeWhile_append_dropWhile (l := stretches)
      (p := fun stretch => decide (first ≤ stretch.1) && decide (stretch.2 ≤ last)),
      List.mem_append] at mem
    rcases mem with taken | left
    · exact ⟨(first, last), List.mem_cons_self, by simpa using all_takeWhile _ stretches _ taken⟩
    · obtain ⟨range, inRest, within⟩ := ih covered left
      exact ⟨range, List.mem_cons_of_mem _ inRest, within⟩

/-- A code point of the class lies in one of the ranges. -/
theorem exists_of_contains (contained : ranges.contains n = true) :
    ∃ range ∈ ranges, range.1 ≤ n ∧ n ≤ range.2 := by
  induction ranges with
  | nil => cases contained
  | cons range rest ih =>
    simp only [contains, Bool.and_eq_true, Bool.or_eq_true, decide_eq_true_eq] at contained
    obtain ⟨lower, upper | later⟩ := contained
    · exact ⟨range, List.mem_cons_self, lower, upper⟩
    · obtain ⟨other, mem, within⟩ := ih later
      exact ⟨other, List.mem_cons_of_mem _ mem, within⟩

/-- Where the ranges begin in ascending order, what lies in one of them is in the class. -/
theorem contains_of_mem (ascending : ranges.Pairwise (·.1 ≤ ·.1)) {range : Nat × Nat}
    (mem : range ∈ ranges) (lower : range.1 ≤ n) (upper : n ≤ range.2) :
    ranges.contains n = true := by
  induction ranges with
  | nil => cases mem
  | cons first rest ih =>
    obtain ⟨before, ascending⟩ := List.pairwise_cons.mp ascending
    simp only [contains, Bool.and_eq_true, Bool.or_eq_true, decide_eq_true_eq]
    rcases List.mem_cons.mp mem with rfl | later
    · exact ⟨lower, .inl upper⟩
    · exact ⟨Nat.le_trans (before range later) lower, .inr (ih ascending later)⟩

end CharRanges

/-- The ranges of word characters begin in ascending order. -/
theorem pairwise_wordRanges : wordRanges.Pairwise (·.1 ≤ ·.1) := by
  have steps : (wordRanges.map (·.1)).IsChain (· ≤ ·) := by decide +kernel
  exact List.pairwise_map.mp (List.isChain_iff_pairwise.mp steps)

/-- A decimal digit of any script is a word character. -/
theorem isWord_of_isDecimalDigit {c : Char} (digit : isDecimalDigit c = true) :
    isWord c = true := by
  have covered : wordRanges.cover decimalDigitRanges = true := by decide +kernel
  obtain ⟨stretch, isStretch, lower, upper⟩ := CharRanges.exists_of_contains digit
  obtain ⟨range, mem, starts, ends⟩ := CharRanges.exists_of_cover covered isStretch
  exact CharRanges.contains_of_mem pairwise_wordRanges mem (Nat.le_trans starts lower)
    (Nat.le_trans upper ends)

end Text

namespace Scope

/-- A text cut behind an at sign and again behind a run of characters. -/
structure MarkedRun where
  before : List Char
  digits : List Char
  behind : List Char

namespace MarkedRun

/-- The parts put together. -/
def text (run : MarkedRun) : List Char := run.before ++ '@' :: (run.digits ++ run.behind)

/-- The run is a number: it is made of digits, is as long as possible, and no word character stands
behind it. -/
structure IsNumber (run : MarkedRun) : Prop where
  notNil : run.digits ≠ []
  decimal : ∀ c ∈ run.digits, Text.isDecimalDigit c = true
  maximal : ∀ c ∈ run.behind.head?, Text.isDecimalDigit c = false
  ends : ∀ c ∈ run.behind.head?, Text.isWord c = false

/-- The run ends where a word begins or ends: of the characters on both sides one is a word
character. -/
def EndsAtWord (run : MarkedRun) : Prop :=
  run.digits.getLast?.any Text.isWord ≠ run.behind.head?.any Text.isWord

/-- A run of digits ends where a word does when no word character stands behind it. -/
theorem endsAtWord_iff {run : MarkedRun} (notNil : run.digits ≠ [])
    (decimal : ∀ c ∈ run.digits, Text.isDecimalDigit c = true) :
    run.EndsAtWord ↔ ∀ c ∈ run.behind.head?, Text.isWord c = false := by
  have last : run.digits.getLast?.any Text.isWord = true := by
    rw [List.getLast?_eq_some_getLast notNil]
    exact Text.isWord_of_isDecimalDigit (decimal _ (List.getLast_mem notNil))
  rw [EndsAtWord, last]
  cases run.behind.head? <;> simp

/-- A run of digits, however long, is a number when it ends where a word does. -/
theorem isNumber_iff_endsAtWord {run : MarkedRun} (notNil : run.digits ≠ [])
    (decimal : ∀ c ∈ run.digits, Text.isDecimalDigit c = true) :
    run.IsNumber ↔ run.EndsAtWord := by
  rw [endsAtWord_iff notNil decimal]
  apply Iff.intro
  · exact IsNumber.ends
  · intro ends
    refine ⟨notNil, decimal, fun c mem => ?_, ends⟩
    by_contra digit
    have word := Text.isWord_of_isDecimalDigit (Bool.not_eq_false _ ▸ digit)
    rw [ends c mem] at word
    cases word

/-- What stands in front of the at sign has no part in it. -/
theorem IsNumber.behindOther {run : MarkedRun} (number : run.IsNumber) (before : List Char) :
    ({ run with before } : MarkedRun).IsNumber :=
  ⟨number.notNil, number.decimal, number.maximal, number.ends⟩

/-- The at sign behind a text, with as many digits behind it as there are. -/
def longest (before cs : List Char) : MarkedRun :=
  ⟨before, cs.takeWhile Text.isDecimalDigit, cs.dropWhile Text.isDecimalDigit⟩

/-- Nothing is lost by the cut. -/
theorem text_longest (before cs : List Char) : (longest before cs).text = before ++ '@' :: cs := by
  rw [text, longest, List.takeWhile_append_dropWhile]

/-- The longest run of digits is a number when the text behind the at sign starts with one. -/
theorem isNumber_longest_iff {before cs : List Char} :
    (longest before cs).IsNumber ↔ startsWithNumber cs = true := by
  rw [startsWithNumber, Bool.and_eq_true, Bool.not_eq_true', Bool.not_eq_true',
    List.isEmpty_eq_false_iff]
  apply Iff.intro
  · intro number
    refine ⟨number.notNil, ?_⟩
    rw [Option.any_eq_false]
    exact number.ends
  · intro parts
    obtain ⟨notNil, ends⟩ := parts
    rw [Option.any_eq_false] at ends
    exact ⟨notNil, Text.all_takeWhile _ cs, Text.head?_dropWhile _ cs, ends⟩

/-- A number is the longest run of digits behind its at sign. -/
theorem IsNumber.eq_longest {run : MarkedRun} (number : run.IsNumber) :
    run = longest run.before (run.digits ++ run.behind) := by
  rw [longest, Text.takeWhile_append_of_stop number.decimal number.maximal,
    Text.dropWhile_append_of_stop number.decimal number.maximal]

/-- A number stands where the reader sees one. -/
theorem IsNumber.startsWithNumber {run : MarkedRun} (number : run.IsNumber) :
    startsWithNumber (run.digits ++ run.behind) = true :=
  isNumber_longest_iff.mp (number.eq_longest ▸ number)

/-- The number is the first of the text. -/
structure IsFirstNumber (run : MarkedRun) : Prop where
  number : run.IsNumber
  first : ∀ other : MarkedRun, other.IsNumber → other.text = run.text →
    run.before.length ≤ other.before.length

end MarkedRun

/-- No at sign of the front has a number behind it, when the rest stands behind the front. -/
def PassesOver (front rest : List Char) : Prop :=
  ∀ run : MarkedRun, run.IsNumber → run.text = front ++ rest → front.length ≤ run.before.length

section Search

variable {c : Char} {front rest cs digits : List Char}

/-- Where nothing stands in front, there is nothing to pass over. -/
theorem passesOver_nil : PassesOver [] rest := fun run _ _ => Nat.zero_le run.before.length

/-- A front without numbers starts with no number and goes on without any. -/
theorem passesOver_cons : PassesOver (c :: front) rest ↔
    ¬ (c = '@' ∧ startsWithNumber (front ++ rest) = true) ∧ PassesOver front rest := by
  apply Iff.intro
  · intro passes
    apply And.intro
    · intro marked
      obtain ⟨rfl, starts⟩ := marked
      have tooFar := passes (.longest [] (front ++ rest))
        (MarkedRun.isNumber_longest_iff.mpr starts) (MarkedRun.text_longest _ _)
      cases tooFar
    · intro run number whole
      have further := passes { run with before := c :: run.before }
        (number.behindOther (c :: run.before)) (congrArg (List.cons c) whole)
      exact Nat.le_of_succ_le_succ further
  · intro parts run number whole
    obtain ⟨unmarked, passes⟩ := parts
    obtain ⟨before, digits, behind⟩ := run
    cases before with
    | nil =>
      obtain ⟨rfl, follows⟩ := List.cons.inj whole
      have starts := number.startsWithNumber
      rw [show digits ++ behind = front ++ rest from follows] at starts
      exact absurd ⟨rfl, starts⟩ unmarked
    | cons first before =>
      have later := passes ⟨before, digits, behind⟩ (number.behindOther before)
        (List.cons.inj whole).2
      exact Nat.succ_le_succ later

/-- Whether there is a number in the front is decided along the front. -/
instance decidablePassesOver : (front rest : List Char) → Decidable (PassesOver front rest)
  | [], _ => isTrue passesOver_nil
  | _ :: front, rest =>
    have := decidablePassesOver front rest
    decidable_of_iff _ passesOver_cons.symm

/-- A front without at signs has no numbers. -/
theorem passesOver_of_not_mem (absent : '@' ∉ front) (rest : List Char) :
    PassesOver front rest := by
  induction front with
  | nil => exact passesOver_nil
  | cons c front ih =>
    rw [List.mem_cons, not_or] at absent
    obtain ⟨differ, others⟩ := absent
    exact passesOver_cons.mpr ⟨fun marked => differ marked.1.symm, ih others⟩

/-- A front without numbers is passed over. -/
theorem markedDigits?_append (passes : PassesOver front rest) :
    markedDigits? (front ++ rest) = markedDigits? rest := by
  induction front with
  | nil => rfl
  | cons c front ih =>
    obtain ⟨unmarked, passes⟩ := passesOver_cons.mp passes
    rw [List.cons_append, markedDigits?, if_neg unmarked, ih passes]

/-- The digits of a number are read where it stands first. -/
theorem MarkedRun.IsNumber.markedDigits?_eq {run : MarkedRun} (number : run.IsNumber) :
    markedDigits? ('@' :: (run.digits ++ run.behind)) = some run.digits := by
  rw [markedDigits?, if_pos ⟨rfl, number.startsWithNumber⟩,
    Text.takeWhile_append_of_stop number.decimal number.maximal]

/-- The digits that are read are those of the first number. -/
theorem markedDigits?_eq_some_iff : markedDigits? cs = some digits ↔
    ∃ run : MarkedRun, run.text = cs ∧ run.IsFirstNumber ∧ run.digits = digits := by
  apply Iff.intro
  · intro read
    -- Along the text up to the at sign where the scan stops. Nothing before it is a number.
    induction cs with
    | nil => cases read
    | cons c cs ih =>
      rw [markedDigits?] at read
      split_ifs at read with marked
      · obtain ⟨rfl, starts⟩ := marked
        exact ⟨.longest [] cs, MarkedRun.text_longest [] cs,
          ⟨MarkedRun.isNumber_longest_iff.mpr starts, passesOver_nil⟩, Option.some.inj read⟩
      · obtain ⟨run, rfl, isFirst, same⟩ := ih read
        exact ⟨{ run with before := c :: run.before }, rfl,
          ⟨isFirst.number.behindOther (c :: run.before),
            passesOver_cons.mpr ⟨marked, isFirst.first⟩⟩, same⟩
  · intro parts
    obtain ⟨run, rfl, isFirst, rfl⟩ := parts
    rw [MarkedRun.text, markedDigits?_append isFirst.first, isFirst.number.markedDigits?_eq]

/-- The offset of a label is the number that its first number writes, if it has 32 bits. -/
theorem labelOffset?_eq_some_iff {label : String} {offset : UInt32} :
    labelOffset? label = some offset ↔
      ∃ run : MarkedRun, run.text = label.toList ∧ run.IsFirstNumber ∧
        Writes run.digits offset := by
  simp only [labelOffset?, Option.bind_eq_some_iff, markedDigits?_eq_some_iff,
    readWord?_eq_some_iff]
  apply Iff.intro
  · intro parts
    obtain ⟨_, ⟨run, whole, isFirst, rfl⟩, writes⟩ := parts
    exact ⟨run, whole, isFirst, writes⟩
  · intro parts
    obtain ⟨run, whole, isFirst, writes⟩ := parts
    exact ⟨run.digits, ⟨run, whole, isFirst, rfl⟩, writes⟩

/-- The numeral of an offset in front of no word character is a number. -/
theorem isNumber_decimal (front : List Char) (offset : UInt32) {behind : List Char}
    (ends : ∀ c ∈ behind.head?, Text.isWord c = false) :
    (MarkedRun.mk front (Text.decimal offset.toNat) behind).IsNumber := by
  have decimal : ∀ c ∈ Text.decimal offset.toNat, Text.isDecimalDigit c = true :=
    fun _ mem => Text.isDecimalDigit_of_isDigit (Text.isDigit_of_mem_decimal mem)
  refine (MarkedRun.isNumber_iff_endsAtWord Nat.toDigits_ne_nil decimal).mpr ?_
  exact (MarkedRun.endsAtWord_iff Nat.toDigits_ne_nil decimal).mpr ends

end Search

/-- A label names an offset exactly when it has a number behind an at sign and the first of these
numbers is the offset, in ASCII digits. To be a number, a run of digits need not be the longest one:
it is enough that it ends where a word begins or ends. So a numeral behind the first at sign is read
back, if no word character follows it, and at signs in front with anything but a number behind them
are passed over. -/
theorem label_names_first_number :
    (∀ (label : String) (offset : UInt32), labelOffset? label = some offset ↔
      ∃ run : MarkedRun, run.text = label.toList ∧ run.IsFirstNumber ∧
        Writes run.digits offset) ∧
    (∀ run : MarkedRun, run.digits ≠ [] → (∀ c ∈ run.digits, Text.isDecimalDigit c = true) →
      (run.IsNumber ↔ run.EndsAtWord)) ∧
    (∀ (front : String) (offset : UInt32) (behind : String), '@' ∉ front.toList →
      (∀ c ∈ behind.toList.head?, Text.isWord c = false) →
        labelOffset? (front ++ "@" ++ toString offset.toNat ++ behind) = some offset) ∧
    ∀ front rest : String, PassesOver front.toList rest.toList →
      labelOffset? (front ++ rest) = labelOffset? rest := by
  refine ⟨fun label offset => labelOffset?_eq_some_iff,
    fun run => MarkedRun.isNumber_iff_endsAtWord, ?_, ?_⟩
  · intro front offset behind absent ends
    refine labelOffset?_eq_some_iff.mpr ⟨⟨front.toList, Text.decimal offset.toNat, behind.toList⟩,
      ?_, ⟨isNumber_decimal _ offset ends, passesOver_of_not_mem absent _⟩, ?_⟩
    · simp [MarkedRun.text, Text.decimal]
    · rw [← readWord?_eq_some_iff, readWord?_decimal, Text.toUInt32?_toNat]
  · intro front rest passes
    rw [labelOffset?, String.toList_append, markedDigits?_append passes, labelOffset?]

/-- At signs without a number are passed over, and behind them the first number counts. No part of
a run that a letter continues is a number. -/
theorem offset_of_misleadingLabel :
    PassesOver "@ x@71th ".toList "bci@10:5 @7".toList ∧ '@' ∉ "bci".toList ∧
      labelOffset? "@ x@71th bci@10:5 @7" = some 10 ∧
      ¬ (MarkedRun.mk "@ x".toList ['7'] "1th bci@10:5 @7".toList).IsNumber := by
  obtain ⟨_, ends, written, passed⟩ := label_names_first_number
  have passes : PassesOver "@ x@71th ".toList "bci@10:5 @7".toList := by decide +kernel
  have absent : '@' ∉ "bci".toList := by decide
  have read : labelOffset? "bci@10:5 @7" = some 10 :=
    written "bci" 10 ":5 @7" absent (by decide +kernel)
  refine ⟨passes, absent, (passed _ _ passes).trans read, ?_⟩
  rw [ends _ (by decide) (by decide +kernel)]
  exact fun boundary => boundary (by decide +kernel)

end Scope

end Devirt
