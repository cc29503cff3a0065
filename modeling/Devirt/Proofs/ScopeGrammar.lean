import Mathlib.Data.List.Basic
import Devirt.Proofs.ScopeLines

/-!
# The grammar of scope lines

What a scope line looks like is said here without a reader. It is made of a dash with blanks
behind it, a class, two colons, a method, an at sign and a run of digits, in front of any text.
Where one part ends the next one cannot go on, except that a digit may not follow the digits, so
a text has these parts in one way at most. The reader accepts exactly these texts.

The digits can fail to be a number in two places, with different effects. Without a number
behind the at sign the line names no frame. Without one in the source line the frame is named,
and only the source line is missing.
-/

namespace Devirt

namespace Scope

/-- A numeral in ASCII digits writes the number. -/
def Writes (digits : List Char) (number : UInt32) : Prop :=
  digits ≠ [] ∧ (∀ c ∈ digits, c.isDigit = true) ∧ Nat.ofDigitChars 10 digits 0 = number.toNat

/-- A text starts with a source line in parentheses, with blanks in front of it. -/
def StartsWithSourceLine (cs : List Char) (number : UInt32) : Prop :=
  ∃ front gap digits behind, front ≠ [] ∧ Text.IsBlankText front ∧ gap ≠ [] ∧
    Text.IsBlankText gap ∧ Writes digits number ∧
    cs = front ++ '(' :: 'l' :: 'i' :: 'n' :: 'e' :: (gap ++ (digits ++ ')' :: behind))

/-- The parts of a scope line. -/
structure LineParts where
  /-- Whether a semicolon stands in front. -/
  remarked : Bool
  indent : List Char
  gap : List Char
  className : List Char
  methodName : List Char
  digits : List Char
  behind : List Char

namespace LineParts

/-- What stands behind the gap. -/
def named (parts : LineParts) : List Char :=
  parts.className ++ ':' :: ':' :: (parts.methodName ++ '@' :: (parts.digits ++ parts.behind))

/-- The parts put together. -/
def text (parts : LineParts) : List Char :=
  (if parts.remarked then [';'] else []) ++ (parts.indent ++ '-' :: (parts.gap ++ parts.named))

/-- Each part is made of the characters that may stand in its place. -/
structure IsWellFormed (parts : LineParts) : Prop where
  indentBlank : Text.IsBlankText parts.indent
  gapNotNil : parts.gap ≠ []
  gapBlank : Text.IsBlankText parts.gap
  classNotNil : parts.className ≠ []
  classNamed : ∀ c ∈ parts.className, isClassChar c = true
  methodNotNil : parts.methodName ≠ []
  methodNamed : ∀ c ∈ parts.methodName, isMethodChar c = true
  digitsNotNil : parts.digits ≠ []
  digitsDecimal : ∀ c ∈ parts.digits, Text.isDecimalDigit c = true
  digitsEnd : ∀ c ∈ parts.behind.head?, Text.isDecimalDigit c = false

/-- The parts name the frame: its class and its method, its offset in digits, and its source line
exactly when one stands behind the offset. -/
structure Names (parts : LineParts) (frame : Frame) : Prop where
  className : frame.className.toList = parts.className
  methodName : frame.methodName.toList = parts.methodName
  offset : Writes parts.digits frame.offset
  sourceLine : ∀ number, frame.sourceLine = some number ↔ StartsWithSourceLine parts.behind number

end LineParts

section Readers

variable {member : Char → Bool} {run rest cs digits : List Char} {number : UInt32}

/-- A run is read off a text exactly when the text goes on with it and the rest does not. -/
theorem readRun?_eq_some_iff :
    readRun? member cs = some (run, rest) ↔ run ≠ [] ∧ (∀ c ∈ run, member c = true) ∧
      (∀ c ∈ rest.head?, member c = false) ∧ cs = run ++ rest := by
  apply Iff.intro
  · intro read
    rw [readRun?] at read
    split_ifs at read with empty
    obtain ⟨rfl, rfl⟩ := Prod.mk.inj (Option.some.inj read)
    exact ⟨empty, Text.all_takeWhile member cs, Text.head?_dropWhile member cs,
      List.takeWhile_append_dropWhile.symm⟩
  · rintro ⟨notNil, all, stop, rfl⟩
    exact readRun?_append notNil all stop

/-- A beginning is taken off exactly when the text starts with it. -/
theorem readBeginning?_eq_some_iff {beginning : List Char} :
    readBeginning? beginning cs = some rest ↔ cs = beginning ++ rest := by
  induction beginning generalizing cs with
  | nil => simp [readBeginning?]
  | cons b beginning ih =>
    cases cs with
    | nil => simp [readBeginning?]
    | cons c cs =>
      by_cases same : b = c
      · simp [readBeginning?, same, ih]
      · simp [readBeginning?, same, Ne.symm same]

/-- A numeral is read exactly when it writes a number of 32 bits. -/
theorem readWord?_eq_some_iff : readWord? digits = some number ↔ Writes digits number := by
  rw [readWord?, Option.bind_eq_some_iff, Writes, ← and_assoc]
  simp only [Text.toUInt32?_eq_some_iff, exists_eq_right]
  simp [Text.readDecimal?]

/-- The number of a source line is read exactly when the text starts with the source line. -/
theorem sourceLine_eq_some_iff :
    (readSourceLine? cs).bind readWord? = some number ↔ StartsWithSourceLine cs number := by
  apply Iff.intro
  · intro read
    obtain ⟨digits, found, word⟩ := Option.bind_eq_some_iff.mp read
    simp only [readSourceLine?, Option.bind_eq_bind, Option.bind_eq_some_iff, Prod.exists,
      readRun?_eq_some_iff, readBeginning?_eq_some_iff, Option.some.injEq] at found
    obtain ⟨front, _, ⟨frontNotNil, frontBlank, _, rfl⟩, _, rfl, gap, _,
      ⟨gapNotNil, gapBlank, _, rfl⟩, _, _, ⟨_, _, _, rfl⟩, behind, rfl, rfl⟩ := found
    exact ⟨front, gap, _, behind, frontNotNil, frontBlank, gapNotNil, gapBlank,
      readWord?_eq_some_iff.mp word, rfl⟩
  · rintro ⟨front, gap, digits, behind, frontNotNil, frontBlank, gapNotNil, gapBlank, writes, rfl⟩
    have decimal : ∀ c ∈ digits, Text.isDecimalDigit c = true :=
      fun c mem => Text.isDecimalDigit_of_isDigit (writes.2.1 c mem)
    have visible : ∀ c ∈ (digits ++ ')' :: behind).head?, Text.isBlank c = false := fun c mem =>
      Text.isBlank_of_isDigit (writes.2.1 c (Text.mem_of_mem_head?_append writes.1 mem))
    have digitsRead : readSourceLine? (front ++
        '(' :: 'l' :: 'i' :: 'n' :: 'e' :: (gap ++ (digits ++ ')' :: behind))) = some digits := by
      rw [readSourceLine?, readRun?_append frontNotNil frontBlank (by simp; decide)]
      simp only [Option.bind_eq_bind, Option.bind_some, readBeginning?, if_true]
      rw [readRun?_append gapNotNil gapBlank visible, Option.bind_some,
        readRun?_append writes.1 decimal (by simp; decide)]
      rfl
    rw [digitsRead, Option.bind_some, readWord?_eq_some_iff.mpr writes]

/-- The text behind a dash without a semicolon in front. -/
def readBareDash? (cs : List Char) : Option (List Char) := do
  let cs ← readBeginning? ['-'] (Text.trimStart cs)
  let (_, cs) ← readRun? Text.isBlank cs
  some cs

/-- Behind a semicolon the dash is read. -/
theorem readDash?_semicolon (cs : List Char) : readDash? (';' :: cs) = readBareDash? cs := rfl

/-- Without a semicolon the dash is read at once. -/
theorem readDash?_of_head? (other : ∀ c ∈ cs.head?, c ≠ ';') : readDash? cs = readBareDash? cs := by
  unfold readDash?
  split
  · exact absurd rfl (other ';' rfl)
  · rfl

/-- A blank or a dash is no semicolon. -/
theorem ne_semicolon_of_indent {indent : List Char} (blank : Text.IsBlankText indent)
    (behind : List Char) : ∀ c ∈ (indent ++ '-' :: behind).head?, c ≠ ';' := by
  cases indent with
  | nil => simp
  | cons first indent =>
    simp only [List.cons_append, List.head?_cons, Option.mem_some_iff, forall_eq']
    rintro rfl
    exact absurd (blank ';' List.mem_cons_self) (by decide)

/-- A dash with blanks around it is read exactly when the text starts with one. -/
theorem readBareDash?_eq_some_iff :
    readBareDash? cs = some rest ↔ (∀ c ∈ rest.head?, Text.isBlank c = false) ∧
      ∃ indent gap, Text.IsBlankText indent ∧ gap ≠ [] ∧ Text.IsBlankText gap ∧
        cs = indent ++ '-' :: (gap ++ rest) := by
  simp only [readBareDash?, Option.bind_eq_bind, Option.bind_eq_some_iff, Prod.exists,
    readBeginning?_eq_some_iff, readRun?_eq_some_iff, Option.some.injEq]
  apply Iff.intro
  · rintro ⟨_, starts, gap, _, ⟨gapNotNil, gapBlank, stop, rfl⟩, rfl⟩
    obtain ⟨indent, indentBlank, split⟩ := Text.exists_append_trimStart cs
    rw [starts] at split
    exact ⟨stop, indent, gap, indentBlank, gapNotNil, gapBlank, split⟩
  · rintro ⟨stop, indent, gap, indentBlank, gapNotNil, gapBlank, rfl⟩
    refine ⟨gap ++ rest, ?_, gap, rest, ⟨gapNotNil, gapBlank, stop, rfl⟩, rfl⟩
    rw [Text.trimStart_append indentBlank, Text.trimStart_cons_of_not_blank (by decide)]
    rfl

/-- The dash of a scope line is read behind a semicolon or without one. -/
theorem readDash?_eq_some_iff :
    readDash? cs = some rest ↔ (∀ c ∈ rest.head?, Text.isBlank c = false) ∧
      ∃ (remarked : Bool) (indent gap : List Char), Text.IsBlankText indent ∧ gap ≠ [] ∧
        Text.IsBlankText gap ∧
        cs = (if remarked then [';'] else []) ++ (indent ++ '-' :: (gap ++ rest)) := by
  apply Iff.intro
  · intro read
    by_cases semicolon : ∃ behind, cs = ';' :: behind
    · obtain ⟨behind, rfl⟩ := semicolon
      rw [readDash?_semicolon, readBareDash?_eq_some_iff] at read
      obtain ⟨stop, indent, gap, indentBlank, gapNotNil, gapBlank, rfl⟩ := read
      exact ⟨stop, true, indent, gap, indentBlank, gapNotNil, gapBlank, rfl⟩
    · have other : ∀ c ∈ cs.head?, c ≠ ';' := by
        rintro c mem rfl
        exact semicolon (List.head?_eq_some_iff.mp mem)
      rw [readDash?_of_head? other, readBareDash?_eq_some_iff] at read
      obtain ⟨stop, indent, gap, indentBlank, gapNotNil, gapBlank, rfl⟩ := read
      exact ⟨stop, false, indent, gap, indentBlank, gapNotNil, gapBlank, rfl⟩
  · rintro ⟨stop, remarked, indent, gap, indentBlank, gapNotNil, gapBlank, rfl⟩
    have read := readBareDash?_eq_some_iff.mpr
      ⟨stop, indent, gap, indentBlank, gapNotNil, gapBlank, rfl⟩
    cases remarked with
    | true => exact read
    | false => exact (readDash?_of_head? (ne_semicolon_of_indent indentBlank _)).trans read

end Readers

section Parts

variable {cs : List Char} {parts other : LineParts} {frame : Frame}

/-- What stands behind the gap starts with a character of the class. -/
theorem LineParts.IsWellFormed.visible_named (formed : parts.IsWellFormed) :
    ∀ c ∈ parts.named.head?, Text.isBlank c = false := fun c mem =>
  isBlank_of_isClassChar
    (formed.classNamed c (Text.mem_of_mem_head?_append formed.classNotNil mem))

/-- The dash is read, and behind it stands what is named. -/
theorem LineParts.IsWellFormed.readDash?_text (formed : parts.IsWellFormed) :
    readDash? parts.text = some parts.named :=
  readDash?_eq_some_iff.mpr ⟨formed.visible_named, parts.remarked, parts.indent, parts.gap,
    formed.indentBlank, formed.gapNotNil, formed.gapBlank, rfl⟩

/-- A frame that the parts name is what they say. -/
theorem LineParts.Names.eq_mk (names : parts.Names frame) :
    frame = ⟨String.ofList parts.className, String.ofList parts.methodName, frame.offset,
      (readSourceLine? parts.behind).bind readWord?⟩ := by
  have sourceLine : frame.sourceLine = (readSourceLine? parts.behind).bind readWord? :=
    Option.ext fun number => (names.sourceLine number).trans sourceLine_eq_some_iff.symm
  rw [← names.className, ← names.methodName, String.ofList_toList, String.ofList_toList,
    ← sourceLine]

/-- A frame is read off a text exactly when the text has the parts of a scope line and they name
the frame. -/
theorem readFrame?_eq_some_iff :
    readFrame? cs = some frame ↔
      ∃ parts : LineParts, parts.IsWellFormed ∧ parts.text = cs ∧ parts.Names frame := by
  apply Iff.intro
  · intro read
    simp only [readFrame?, Option.bind_eq_bind, Option.bind_eq_some_iff, Prod.exists,
      readRun?_eq_some_iff, readBeginning?_eq_some_iff, readDash?_eq_some_iff,
      readWord?_eq_some_iff, Option.some.injEq] at read
    obtain ⟨_, ⟨_, remarked, indent, gap, indentBlank, gapNotNil, gapBlank, rfl⟩,
      className, _, ⟨classNotNil, classNamed, _, rfl⟩, _, rfl,
      methodName, _, ⟨methodNotNil, methodNamed, _, rfl⟩, _, rfl,
      digits, behind, ⟨digitsNotNil, digitsDecimal, digitsEnd, rfl⟩, offset, writes, rfl⟩ := read
    exact ⟨⟨remarked, indent, gap, className, methodName, digits, behind⟩,
      ⟨indentBlank, gapNotNil, gapBlank, classNotNil, classNamed, methodNotNil, methodNamed,
        digitsNotNil, digitsDecimal, digitsEnd⟩, rfl,
      ⟨String.toList_ofList, String.toList_ofList, writes, fun _ => sourceLine_eq_some_iff⟩⟩
  · rintro ⟨parts, formed, rfl, names⟩
    rw [readFrame?, formed.readDash?_text, LineParts.named, Option.bind_eq_bind, Option.bind_some,
      readRun?_append formed.classNotNil formed.classNamed (by simp; decide)]
    simp only [Option.bind_eq_bind, Option.bind_some, readBeginning?, if_true]
    rw [readRun?_append formed.methodNotNil formed.methodNamed (by simp; decide)]
    simp only [Option.bind_some, readBeginning?, if_true]
    rw [readRun?_append formed.digitsNotNil formed.digitsDecimal formed.digitsEnd,
      Option.bind_some, readWord?_eq_some_iff.mpr names.offset, Option.bind_some, ← names.eq_mk]

/-- What is named has its parts in one way. -/
theorem LineParts.IsWellFormed.named_inj (formed : parts.IsWellFormed)
    (otherFormed : other.IsWellFormed) (same : parts.named = other.named) :
    parts.className = other.className ∧ parts.methodName = other.methodName ∧
      parts.digits = other.digits ∧ parts.behind = other.behind := by
  obtain ⟨classes, behindClass⟩ := Text.run_append_inj formed.classNamed (by simp; decide)
    otherFormed.classNamed (by simp; decide) same
  obtain ⟨methods, behindMethod⟩ := Text.run_append_inj formed.methodNamed (by simp; decide)
    otherFormed.methodNamed (by simp; decide) (List.cons.inj (List.cons.inj behindClass).2).2
  obtain ⟨digits, behind⟩ := Text.run_append_inj formed.digitsDecimal formed.digitsEnd
    otherFormed.digitsDecimal otherFormed.digitsEnd (List.cons.inj behindMethod).2
  exact ⟨classes, methods, digits, behind⟩

/-- A text has the parts of a scope line in one way at most. -/
theorem LineParts.IsWellFormed.eq_of_text_eq (formed : parts.IsWellFormed)
    (otherFormed : other.IsWellFormed) (same : parts.text = other.text) : parts = other := by
  have semicolon (remarked : Bool) :
      ∀ c ∈ (if remarked then [';'] else []), decide (c = ';') = true := by
    cases remarked <;> simp
  have behind {parts : LineParts} (formed : parts.IsWellFormed) :
      ∀ c ∈ (parts.indent ++ '-' :: (parts.gap ++ parts.named)).head?, decide (c = ';') = false :=
    fun c mem => decide_eq_false (ne_semicolon_of_indent formed.indentBlank _ c mem)
  obtain ⟨marks, behindMark⟩ := Text.run_append_inj (semicolon _) (behind formed) (semicolon _)
    (behind otherFormed) same
  obtain ⟨indents, behindIndent⟩ := Text.run_append_inj formed.indentBlank (by simp; decide)
    otherFormed.indentBlank (by simp; decide) behindMark
  obtain ⟨gaps, nameds⟩ := Text.run_append_inj formed.gapBlank formed.visible_named
    otherFormed.gapBlank otherFormed.visible_named (List.cons.inj behindIndent).2
  obtain ⟨classes, methods, digits, behinds⟩ := formed.named_inj otherFormed nameds
  have remarked : parts.remarked = other.remarked := by
    cases first : parts.remarked <;> cases second : other.remarked <;> simp_all
  obtain ⟨_, _, _, _, _, _, _⟩ := parts
  obtain ⟨_, _, _, _, _, _, _⟩ := other
  simp_all

end Parts

/-- A written scope line is read back, whatever text stands behind it. -/
theorem WrittenFrame.ofLine?_text_append (frame : WrittenFrame) (behind : String) :
    Frame.ofLine? (frame.text ++ behind) = frame.named? := by
  have notNil : frame.text.toList ≠ [] := by
    rw [frame.toList_text]
    exact List.cons_ne_nil _ _
  rw [Frame.ofLine?, String.toList_append,
    Text.trim_append_of_hasBareEnds notNil frame.hasBareEnds_text, readFrame?_text_append]

/-- A line names a frame exactly when, less the blanks at its ends, it has the parts of a scope
line and they name the frame: class, method, an offset of 32 bits in ASCII digits, and the source
line that stands directly behind the offset, if one of 32 bits does. There is one way at most to
cut a text into such parts. So a frame that is written as a scope line is read back, whatever text
stands behind the line. -/
theorem scope_lines_follow_grammar :
    (∀ (line : String) (frame : Frame), Frame.ofLine? line = some frame ↔
      ∃ parts : LineParts, parts.IsWellFormed ∧ parts.text = Text.trim line.toList ∧
        parts.Names frame) ∧
    (∀ parts other : LineParts, parts.IsWellFormed → other.IsWellFormed →
      parts.text = other.text → parts = other) ∧
    ∀ (written : WrittenFrame) (offset number : UInt32) (behind : String),
      written.index = some offset → written.line = number.toNat →
        Frame.ofLine? (written.text ++ behind) =
          some ⟨written.className, written.methodName, offset, some number⟩ := by
  refine ⟨fun line frame => readFrame?_eq_some_iff,
    fun parts other formed otherFormed => formed.eq_of_text_eq otherFormed, ?_⟩
  intro written offset number behind indexed lined
  rw [written.ofLine?_text_append, WrittenFrame.named?, indexed, Option.map_some,
    WrittenFrame.withIndex, lined, Text.toUInt32?_toNat]

/-- The frame of a constructor. -/
def constructorFrame : WrittenFrame where
  className := "org/example/Canvas$1"
  methodName := "<init>"
  index := some 5
  line := 12

/-- Its scope line with a second source line behind it names the frame with the first one, and has
its parts in one way. -/
theorem frame_of_constructorLine :
    constructorFrame.text ++ " (line 13) " =
        "; - org/example/Canvas$1::<init>@5 (line 12) (line 13) " ∧
      Frame.ofLine? (constructorFrame.text ++ " (line 13) ") =
        some ⟨"org/example/Canvas$1", "<init>", 5, some 12⟩ ∧
      ∃! parts : LineParts, parts.IsWellFormed ∧
        parts.text = Text.trim (constructorFrame.text ++ " (line 13) ").toList := by
  obtain ⟨grammar, unique, written⟩ := scope_lines_follow_grammar
  have read := written constructorFrame 5 12 " (line 13) " rfl rfl
  obtain ⟨parts, formed, whole, _⟩ := (grammar _ _).mp read
  refine ⟨by decide +kernel, read, parts, ⟨formed, whole⟩, ?_⟩
  rintro other ⟨otherFormed, otherWhole⟩
  exact unique other parts otherFormed formed (otherWhole.trans whole.symm)

end Scope

end Devirt
