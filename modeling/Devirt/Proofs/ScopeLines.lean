import Mathlib.Data.List.Basic
import Devirt.Instruction.Basic
import Devirt.Proofs.Scanning
import Devirt.Scope.Frame

/-!
# Scope lines as the compiler writes them

The compiler writes a frame of the call stack as a dash, the class, the method, the bytecode index
and the source line. Such a line is read back as the frame, whatever the names, the index and the
source line are, with one exception: at the entry of a synchronized method the compiler writes the
index -1, and a line with it names no frame.
-/

namespace Devirt

namespace Text

/-- The ASCII digits have consecutive code points. -/
theorem toNat_of_isDigit {c : Char} (digit : c.isDigit = true) :
    0x30 ≤ c.toNat ∧ c.toNat ≤ 0x39 := by
  simp only [Char.isDigit, Bool.and_eq_true, decide_eq_true_eq, UInt32.le_iff_toNat_le] at digit
  exact digit

/-- An ASCII digit is a decimal digit. -/
theorem isDecimalDigit_of_isDigit {c : Char} (digit : c.isDigit = true) :
    isDecimalDigit c = true := by
  obtain ⟨lower, upper⟩ := toNat_of_isDigit digit
  simp [isDecimalDigit, decimalDigitRanges, CharRanges.contains, lower, upper]

/-- An ASCII digit is visible. -/
theorem isBlank_of_isDigit {c : Char} (digit : c.isDigit = true) : isBlank c = false := by
  obtain ⟨lower, upper⟩ := toNat_of_isDigit digit
  simp only [isBlank, Bool.or_eq_false_iff, Bool.and_eq_false_iff, decide_eq_false_iff_not,
    beq_eq_false_iff_ne]
  omega

/-- No blank is a word character. -/
theorem isWord_of_isBlank {c : Char} (blank : isBlank c = true) : isWord c = false :=
  of_isBlank (P := fun c => isWord c = false) (by decide +kernel) blank

end Text

namespace Scope

section Readers

variable {member : Char → Bool} {run rest cs : List Char}

/-- A run that the rest does not continue is read whole. -/
theorem readRun?_append (notNil : run ≠ []) (all : ∀ c ∈ run, member c = true)
    (stop : ∀ c ∈ rest.head?, member c = false) :
    readRun? member (run ++ rest) = some (run, rest) := by
  rw [readRun?, Text.takeWhile_append_of_stop all stop, Text.dropWhile_append_of_stop all stop]
  simp [notNil]

/-- No run is read where none starts. -/
theorem readRun?_eq_none (stop : ∀ c ∈ cs.head?, member c = false) :
    readRun? member cs = none := by
  cases cs with
  | nil => rfl
  | cons c cs => simp [readRun?, stop c rfl]

/-- A space in front of a text that starts with no blank is a run of blanks. -/
theorem readRun?_space (visible : ∀ c ∈ cs.head?, Text.isBlank c = false) :
    readRun? Text.isBlank (' ' :: cs) = some ([' '], cs) := by
  have space : ∀ c ∈ [' '], Text.isBlank c = true := by decide
  exact readRun?_append (List.cons_ne_nil _ _) space visible

/-- A numeral in front of a character that is no digit is read whole. -/
theorem readRun?_decimal (n : Nat) {c : Char} (stop : Text.isDecimalDigit c = false)
    (cs : List Char) :
    readRun? Text.isDecimalDigit (Text.decimal n ++ c :: cs) = some (Text.decimal n, c :: cs) :=
  readRun?_append Nat.toDigits_ne_nil
    (fun _ mem => Text.isDecimalDigit_of_isDigit (Text.isDigit_of_mem_decimal mem))
    (by simpa using stop)

/-- A numeral is read as its number, if it fits. -/
theorem readWord?_decimal (n : Nat) : readWord? (Text.decimal n) = Text.toUInt32? n := by
  rw [readWord?, Text.readDecimal?_decimal, Option.bind_some]

end Readers

/-- A character of a class name is visible. -/
theorem isBlank_of_isClassChar {c : Char} (inClass : isClassChar c = true) :
    Text.isBlank c = false := by
  by_contra blank
  have blank : Text.isBlank c = true := by simpa using blank
  simp only [isClassChar, Text.isWord_of_isBlank blank, Bool.false_or, Bool.or_eq_true,
    beq_iff_eq] at inClass
  rcases inClass with (rfl | rfl) | rfl <;> exact absurd blank (by decide)

/-- A name of one or more characters of a class. -/
def IsNameOver (member : Char → Bool) (name : String) : Prop :=
  name ≠ "" ∧ ∀ c ∈ name.toList, member c = true

instance (member : Char → Bool) : DecidablePred (IsNameOver member) := fun name =>
  inferInstanceAs (Decidable (name ≠ "" ∧ ∀ c ∈ name.toList, member c = true))

/-- A frame as the compiler writes it. At the entry of a synchronized method there is no index. -/
structure WrittenFrame where
  className : String
  methodName : String
  index : Option UInt32
  line : Nat
  classNamed : IsNameOver isClassChar className := by decide
  methodNamed : IsNameOver isMethodChar methodName := by decide

namespace WrittenFrame

/-- The index in digits. A missing one is written as -1. -/
def indexText : Option UInt32 → String
  | none => "-1"
  | some index => toString index.toNat

/-- The scope line of the frame. -/
def text (frame : WrittenFrame) : String :=
  "; - " ++ frame.className ++ "::" ++ frame.methodName ++ "@" ++ indexText frame.index ++
    " (line " ++ toString frame.line ++ ")"

/-- The comment line that holds the scope line. -/
def comment (frame : WrittenFrame) : Comment := Comment.ofText frame.text

/-- The frame that the scope line names when it has this index. -/
def withIndex (frame : WrittenFrame) (index : UInt32) : Frame :=
  ⟨frame.className, frame.methodName, index, Text.toUInt32? frame.line⟩

/-- The frame that the scope line names: none without an index. -/
def named? (frame : WrittenFrame) : Option Frame := frame.index.map frame.withIndex

/-- What stands behind the at sign of the scope line. -/
def tail (frame : WrittenFrame) : List Char :=
  (indexText frame.index).toList ++
    ' ' :: '(' :: 'l' :: 'i' :: 'n' :: 'e' :: ' ' :: (Text.decimal frame.line ++ [')'])

/-- The scope line, piece by piece. -/
theorem toList_text (frame : WrittenFrame) :
    frame.text.toList = ';' :: ' ' :: '-' :: ' ' :: (frame.className.toList ++
      ':' :: ':' :: (frame.methodName.toList ++ '@' :: frame.tail)) := by
  simp [text, tail, Text.decimal]

/-- A scope line has no blanks at its ends. -/
theorem hasBareEnds_text (frame : WrittenFrame) : Text.HasBareEnds frame.text.toList := by
  have last : frame.text.toList.getLast? = some ')' := by
    rw [text, String.toList_append, show ")".toList = [')'] from rfl, List.getLast?_concat]
  apply And.intro
  · rw [toList_text, List.head?_cons]
    simp only [Option.mem_some_iff, forall_eq']
    decide
  · rw [last]
    simp only [Option.mem_some_iff, forall_eq']
    decide

/-- The source line is read behind the index. -/
theorem readSourceLine?_line (line : Nat) (behind : List Char) :
    readSourceLine?
        (' ' :: '(' :: 'l' :: 'i' :: 'n' :: 'e' :: ' ' :: (Text.decimal line ++ ')' :: behind)) =
      some (Text.decimal line) := by
  have visible : ∀ c ∈ (Text.decimal line ++ ')' :: behind).head?, Text.isBlank c = false := by
    intro c mem
    have inNumeral := Text.mem_of_mem_head?_append Nat.toDigits_ne_nil mem
    exact Text.isBlank_of_isDigit (Text.isDigit_of_mem_decimal inNumeral)
  rw [readSourceLine?, readRun?_space (by simp; decide)]
  simp only [Option.bind_eq_bind, Option.bind_some, readBeginning?, if_true]
  rw [readRun?_space visible, Option.bind_some, readRun?_decimal line (by decide)]
  rfl

/-- Behind the dash the class stands. -/
theorem readDash?_text (frame : WrittenFrame) (behind : List Char) :
    readDash? (frame.text.toList ++ behind) = some (frame.className.toList ++
      ':' :: ':' :: (frame.methodName.toList ++ '@' :: (frame.tail ++ behind))) := by
  have visible : ∀ c ∈ (frame.className.toList ++
      ':' :: ':' :: (frame.methodName.toList ++ '@' :: (frame.tail ++ behind))).head?,
      Text.isBlank c = false := by
    intro c mem
    have notNil := mt String.toList_eq_nil_iff.mp frame.classNamed.1
    exact isBlank_of_isClassChar
      (frame.classNamed.2 c (Text.mem_of_mem_head?_append notNil mem))
  have start (cs : List Char) : Text.trimStart (' ' :: '-' :: cs) = '-' :: cs := rfl
  rw [toList_text]
  simp only [List.cons_append, List.append_assoc]
  rw [readDash?]
  simp only [start, readBeginning?, if_true, Option.bind_eq_bind, Option.bind_some]
  rw [readRun?_space visible]
  rfl

/-- The scope line is read back, whatever stands behind it. -/
theorem readFrame?_text_append (frame : WrittenFrame) (behind : List Char) :
    readFrame? (frame.text.toList ++ behind) = frame.named? := by
  have className (rest : List Char) :
      readRun? isClassChar (frame.className.toList ++ ':' :: rest) =
        some (frame.className.toList, ':' :: rest) :=
    readRun?_append (mt String.toList_eq_nil_iff.mp frame.classNamed.1) frame.classNamed.2
      (by simp; decide)
  have methodName (rest : List Char) :
      readRun? isMethodChar (frame.methodName.toList ++ '@' :: rest) =
        some (frame.methodName.toList, '@' :: rest) :=
    readRun?_append (mt String.toList_eq_nil_iff.mp frame.methodNamed.1) frame.methodNamed.2
      (by simp; decide)
  rw [readFrame?, readDash?_text]
  simp only [Option.bind_eq_bind, Option.bind_some, className, methodName, readBeginning?, if_true]
  rw [tail, named?]
  cases frame.index with
  | none =>
    have stop (rest : List Char) :
        readRun? Text.isDecimalDigit ((indexText none).toList ++ rest) = none :=
      readRun?_eq_none (by simp [indexText]; decide)
    rw [List.append_assoc, stop]
    rfl
  | some index =>
    have digits : (indexText (some index)).toList = Text.decimal index.toNat := by
      simp [indexText, Text.decimal]
    simp only [List.append_assoc, List.cons_append, List.nil_append]
    rw [digits, readRun?_decimal _ (by decide)]
    simp [readWord?_decimal, Text.toUInt32?_toNat, readSourceLine?_line, withIndex]

/-- The scope line is read back. -/
theorem readFrame?_text (frame : WrittenFrame) : readFrame? frame.text.toList = frame.named? := by
  simpa using frame.readFrame?_text_append []

end WrittenFrame

end Scope

end Devirt
