import Mathlib.Data.Nat.Digits.Defs
import Devirt.Assembly.Parser
import Devirt.Proofs.LineGrammar
import Devirt.Proofs.OperandCuts

/-!
# What an instruction line says

The address of an instruction line is the number that its digits write. Behind the colon stands
code up to the first semicolon, and the comment line from there on. The code is one word, or a
modifier and one word, with the operands behind it, listed between separating commas. An instruction
line is read unless its address does not fit 64 bits or its code is blank.
-/

namespace Devirt

namespace Text

/-- The number that hexadecimal digits write, by their places. -/
def hexNumber (digits : List Char) : Nat :=
  Nat.ofDigits 16 (digits.reverse.map fun c => hexDigits.idxOf c.toLower)

/-- Digits are read by their places. -/
theorem readHexFrom?_eq {digits : List Char} (all : ∀ c ∈ digits, c.toLower ∈ hexDigits)
    (before : Nat) :
    readHexFrom? before digits = some (16 ^ digits.length * before + hexNumber digits) := by
  induction digits generalizing before with
  | nil => simp [readHexFrom?, hexNumber]
  | cons c digits ih =>
    obtain ⟨first, others⟩ := List.forall_mem_cons.mp all
    have number : hexNumber (c :: digits) =
        hexNumber digits + 16 ^ digits.length * hexDigits.idxOf c.toLower := by
      simp [hexNumber, Nat.ofDigits_append]
    rw [readHexFrom?, hexValue?_eq, if_pos first, number]
    refine (ih others _).trans ?_
    rw [List.length_cons, pow_succ]
    congr 1
    ring

/-- The digits of a numeral are read as its number. -/
theorem readHex?_eq {digits : List Char} (numeral : IsHexNumeral digits) :
    readHex? digits = some (hexNumber digits) := by
  rw [readHex?, if_neg numeral.1, readHexFrom?_eq numeral.2]
  simp

/-- A text is a word with a rest behind it, and blanks around the two. -/
def IsFirstWord (text word rest : List Char) : Prop :=
  ∃ front between back, IsBlankText front ∧ IsBlankText between ∧ IsBlankText back ∧
    IsWordText word ∧ HasBareEnds rest ∧ (between = [] → rest = []) ∧
    text = front ++ (word ++ (between ++ (rest ++ back)))

end Text

namespace Assembly

/-- A body is code, and a comment line if a semicolon stands behind the code. -/
inductive BodyReads (body : List Char) : List Char → List Comment → Prop
  | bare (absent : ';' ∉ body) : BodyReads body body []
  | remarked (code behind : List Char) (absent : ';' ∉ code)
      (whole : body = code ++ ';' :: behind) :
      BodyReads body code [Comment.ofText (String.ofList (';' :: behind))]

/-- Code is a mnemonic with operands behind it, and perhaps a modifier in front of it. A modifier
with nothing behind it is a mnemonic. -/
inductive CodeReads (code : List Char) : Option (List Char) → List Char → List Char → Prop
  | plain (mnemonic operandText : List Char) (first : Text.IsFirstWord code mnemonic operandText)
      (alone : isModifier mnemonic = true → operandText = []) :
      CodeReads code none mnemonic operandText
  | modified (modifier rest mnemonic operandText : List Char)
      (first : Text.IsFirstWord code modifier rest) (modifies : isModifier modifier = true)
      (second : Text.IsFirstWord rest mnemonic operandText) :
      CodeReads code (some modifier) mnemonic operandText

section

variable {body code text word rest : List Char} {comments : List Comment}

/-- A body is cut at its first semicolon. -/
theorem bodyReads_iff :
    BodyReads body code comments ↔
      code = body.takeWhile (· ≠ ';') ∧ comments = readComment body := by
  apply Iff.intro
  · intro reads
    cases reads with
    | bare absent =>
      have whole : body.takeWhile (· ≠ ';') = body :=
        List.takeWhile_eq_self_iff.mpr (Text.all_ne_of_not_mem absent)
      have nothing : body.dropWhile (· ≠ ';') = [] :=
        List.dropWhile_eq_nil_iff.mpr (Text.all_ne_of_not_mem absent)
      rw [readComment, whole, nothing]
      exact ⟨rfl, rfl⟩
    | remarked _ behind absent whole =>
      subst whole
      rw [readComment, Text.takeWhile_ne_append absent, Text.dropWhile_ne_append absent]
      exact ⟨rfl, rfl⟩
  · rintro ⟨rfl, rfl⟩
    have split := List.takeWhile_append_dropWhile (p := (· ≠ ';')) (l := body)
    have absent : ';' ∉ body.takeWhile (· ≠ ';') := Text.not_mem_takeWhile_ne body
    rw [readComment]
    cases behind : body.dropWhile (· ≠ ';') with
    | nil =>
      rw [behind, List.append_nil] at split
      rw [split] at absent ⊢
      exact .bare absent
    | cons c rest =>
      have stop := Text.head?_dropWhile (· ≠ ';') body
      rw [behind] at stop
      obtain rfl : c = ';' := by simpa using stop c rfl
      rw [behind] at split
      exact .remarked _ rest absent split.symm

/-- A word ends at the blanks behind it. -/
theorem firstWord_append {between : List Char} (isWord : Text.IsWordText word)
    (betweenBlank : Text.IsBlankText between) (bare : Text.HasBareEnds rest)
    (apart : between = [] → rest = []) :
    firstWord (word ++ (between ++ rest)) = word ∧
      behindFirstWord (word ++ (between ++ rest)) = rest := by
  have all : ∀ c ∈ word, (!Text.isBlank c) = true := by simpa using isWord.2
  have stop : ∀ c ∈ (between ++ rest).head?, (!Text.isBlank c) = false := by
    by_cases adjacent : between = []
    · simp [adjacent, apart adjacent]
    · exact Text.head?_append_isBlank adjacent betweenBlank rest
  have trimmed : Text.trim (between ++ rest) = rest := by
    simpa using Text.trim_fill betweenBlank Text.isBlankText_nil bare
  rw [firstWord, behindFirstWord, Text.takeWhile_append_of_stop all stop,
    Text.dropWhile_append_of_stop all stop, trimmed]
  exact ⟨rfl, rfl⟩

/-- A visible text without blanks in front starts with a word. -/
theorem isWordText_firstWord (visible : text ≠ [])
    (bare : ∀ c ∈ text.head?, Text.isBlank c = false) : Text.IsWordText (firstWord text) := by
  obtain ⟨c, cs, rfl⟩ := List.exists_cons_of_ne_nil visible
  refine ⟨?_, ?_⟩
  · simp [firstWord, bare c rfl]
  · intro d mem
    simpa using Text.all_takeWhile _ _ d mem

/-- Trimming leaves a word, and the blanks behind it if something stands there. -/
theorem exists_trim_eq {front between back : List Char} (frontBlank : Text.IsBlankText front)
    (betweenBlank : Text.IsBlankText between) (backBlank : Text.IsBlankText back)
    (isWord : Text.IsWordText word) (bare : Text.HasBareEnds rest)
    (apart : between = [] → rest = []) :
    ∃ blanks, Text.IsBlankText blanks ∧ (blanks = [] → rest = []) ∧
      Text.trim (front ++ (word ++ (between ++ (rest ++ back)))) = word ++ (blanks ++ rest) := by
  by_cases nothing : rest = []
  · subst nothing
    have backs : Text.IsBlankText (between ++ back) :=
      fun c mem => (List.mem_append.mp mem).elim (betweenBlank c) (backBlank c)
    refine ⟨[], Text.isBlankText_nil, fun _ => rfl, ?_⟩
    simpa using Text.trim_fill frontBlank backs isWord.hasBareEnds
  · have ends : Text.HasBareEnds (word ++ (between ++ rest)) := by
      refine ⟨isWord.visible_append _, ?_⟩
      rw [← List.append_assoc, List.getLast?_append_of_ne_nil _ nothing]
      exact bare.2
    exact ⟨between, betweenBlank, apart, by simpa using Text.trim_fill frontBlank backBlank ends⟩

/-- The first word of a text and what stands behind it are found. -/
theorem isFirstWord_iff :
    Text.IsFirstWord text word rest ↔
      Text.trim text ≠ [] ∧ word = firstWord (Text.trim text) ∧
        rest = behindFirstWord (Text.trim text) := by
  apply Iff.intro
  · rintro ⟨front, between, back, frontBlank, betweenBlank, backBlank, isWord, bare, apart, rfl⟩
    obtain ⟨blanks, blank, blanksApart, trimmed⟩ :=
      exists_trim_eq frontBlank betweenBlank backBlank isWord bare apart
    obtain ⟨first, behind⟩ := firstWord_append isWord blank bare blanksApart
    rw [trimmed, first, behind]
    exact ⟨by simp [isWord.1], rfl, rfl⟩
  · rintro ⟨visible, rfl, rfl⟩
    obtain ⟨front, back, frontBlank, backBlank, whole⟩ := Text.exists_fill_trim text
    obtain ⟨between, behind, betweenBlank, behindBlank, split⟩ :=
      Text.exists_fill_trim ((Text.trim text).dropWhile (!Text.isBlank ·))
    have bareRest := Text.hasBareEnds_trim ((Text.trim text).dropWhile (!Text.isBlank ·))
    refine ⟨front, between, behind ++ back, frontBlank, betweenBlank, ?_,
      isWordText_firstWord visible (Text.hasBareEnds_trim text).1, bareRest, ?_, ?_⟩
    · exact fun c mem => (List.mem_append.mp mem).elim (behindBlank c) (backBlank c)
    · -- Behind the first word a blank stands, so nothing else can stand there directly.
      rintro rfl
      have blankStart := Text.head?_dropWhile (!Text.isBlank ·) (Text.trim text)
      rw [behindFirstWord]
      cases rest : Text.trim ((Text.trim text).dropWhile (!Text.isBlank ·)) with
      | nil => rfl
      | cons c cs =>
        rw [split, rest] at blankStart
        rw [rest] at bareRest
        have blank := blankStart c rfl
        rw [bareRest.1 c rfl] at blank
        cases blank
    · have parts := List.takeWhile_append_dropWhile (p := (!Text.isBlank ·)) (l := Text.trim text)
      rw [split] at parts
      conv_lhs => rw [whole, ← parts]
      simp [firstWord, behindFirstWord]

/-- No code is read when there are only blanks. -/
theorem readOperation?_eq_none_iff :
    readOperation? (Text.trim code) = none ↔ Text.IsBlankText code := by
  rw [← Text.trim_eq_nil_iff, readOperation?]
  apply Iff.intro
  · intro unread
    by_contra visible
    have isWord := isWordText_firstWord visible (Text.hasBareEnds_trim code).1
    rw [if_neg isWord.1] at unread
    split_ifs at unread
  · intro empty
    rw [empty]
    rfl

/-- What stands behind the first word is its own trimmed form. -/
theorem trim_behindFirstWord (text : List Char) :
    Text.trim (behindFirstWord text) = behindFirstWord text :=
  Text.trim_trim _

/-- Code is read as what it says. -/
theorem readOperation?_eq_some_iff {modifier : Option (List Char)}
    {mnemonic operandText : List Char} :
    readOperation? (Text.trim code) = some (modifier, mnemonic, operandText) ↔
      CodeReads code modifier mnemonic operandText := by
  apply Iff.intro
  · intro read
    rw [readOperation?] at read
    split_ifs at read with empty modified
    · obtain ⟨rfl, rfl, rfl⟩ : _ ∧ _ ∧ _ := by simpa using read
      have visible : Text.trim code ≠ [] := fun gone => empty (by rw [gone]; rfl)
      refine .modified _ (behindFirstWord (Text.trim code)) _ _
        (isFirstWord_iff.mpr ⟨visible, rfl, rfl⟩) modified.1 (isFirstWord_iff.mpr ?_)
      rw [trim_behindFirstWord]
      exact ⟨modified.2, rfl, rfl⟩
    · obtain ⟨rfl, rfl, rfl⟩ : _ ∧ _ ∧ _ := by simpa using read
      have visible : Text.trim code ≠ [] := fun gone => empty (by rw [gone]; rfl)
      refine .plain _ _ (isFirstWord_iff.mpr ⟨visible, rfl, rfl⟩) fun modifies => ?_
      by_contra behind
      exact modified ⟨modifies, behind⟩
  · intro reads
    cases reads with
    | plain _ _ first alone =>
      obtain ⟨visible, rfl, rfl⟩ := isFirstWord_iff.mp first
      have isWord := isWordText_firstWord visible (Text.hasBareEnds_trim code).1
      rw [readOperation?]
      rw [if_neg isWord.1, if_neg fun modified => modified.2 (alone modified.1)]
    | modified _ rest _ _ first modifies second =>
      obtain ⟨visible, rfl, rfl⟩ := isFirstWord_iff.mp first
      have isWord := isWordText_firstWord visible (Text.hasBareEnds_trim code).1
      rw [isFirstWord_iff, trim_behindFirstWord] at second
      obtain ⟨behind, rfl, rfl⟩ := second
      rw [readOperation?]
      rw [if_neg isWord.1, if_pos ⟨modifies, behind⟩]

end

namespace InstructionLine

/-- An instruction is what a line says, with a label for a line that has none of its own, and with
comment lines that stand beneath it. -/
def Describes (line : InstructionLine) (label : Option String) (beneath : List Comment)
    (instruction : Instruction) : Prop :=
  instruction.address.toNat = Text.hexNumber line.digits ∧
    instruction.label = (line.label.map String.ofList).or label ∧
    ∃ code inline modifier mnemonic operandText, BodyReads line.body code inline ∧
      CodeReads code modifier mnemonic operandText ∧
      instruction.modifier = modifier.map String.ofList ∧
      instruction.mnemonic = String.ofList mnemonic ∧
      ListsOperands operandText instruction.operands ∧
      instruction.comments = inline ++ beneath

/-- A line cannot be read: its address does not fit 64 bits or it has no code. -/
def IsFaulty (line : InstructionLine) : Prop :=
  UInt64.size ≤ Text.hexNumber line.digits ∨
    ∃ code comments, BodyReads line.body code comments ∧ Text.IsBlankText code

variable {line : InstructionLine} {label : Option String} {instruction : Instruction}

/-- The reading of an instruction line, part by part. -/
theorem instruction?_eq (numeral : Text.IsHexNumeral line.digits) (label : Option String) :
    line.instruction? label =
      (Text.toUInt64? (Text.hexNumber line.digits)).bind fun address =>
        (readOperation? (Text.trim (line.body.takeWhile (· ≠ ';')))).map
          fun (modifier, mnemonic, operandText) => {
            label := (line.label.map String.ofList).or label
            address
            modifier := modifier.map String.ofList
            mnemonic := String.ofList mnemonic
            operands := (operands operandText).map String.ofList
            comments := readComment line.body } := by
  rw [instruction?, Text.readHex?_eq numeral]
  simp only [Option.map_eq_bind]
  rfl

/-- The instruction on a line is what the line says. -/
theorem instruction?_eq_some_iff (numeral : Text.IsHexNumeral line.digits) :
    line.instruction? label = some instruction ↔ line.Describes label [] instruction := by
  rw [instruction?_eq numeral]
  apply Iff.intro
  · intro read
    obtain ⟨address, fits, read⟩ := Option.bind_eq_some_iff.mp read
    obtain ⟨⟨modifier, mnemonic, operandText⟩, operation, rfl⟩ := Option.map_eq_some_iff.mp read
    rw [readOperation?_eq_some_iff] at operation
    exact ⟨(Text.toUInt64?_eq_some_iff.mp fits).symm, rfl, _, _, modifier, mnemonic, operandText,
      bodyReads_iff.mpr ⟨rfl, rfl⟩, operation, rfl, rfl, listsOperands_iff.mpr rfl,
      (List.append_nil _).symm⟩
  · rintro ⟨address, labelled, code, inline, modifier, mnemonic, operandText, cut, operation,
      sameModifier, sameMnemonic, sameOperands, sameComments⟩
    obtain ⟨rfl, rfl⟩ := bodyReads_iff.mp cut
    rw [listsOperands_iff] at sameOperands
    rw [Text.toUInt64?_eq_some_iff.mpr address.symm, readOperation?_eq_some_iff.mpr operation]
    obtain ⟨_, _, _, _, _, _⟩ := instruction
    simp_all

/-- There is none on a faulty line. -/
theorem instruction?_eq_none_iff (numeral : Text.IsHexNumeral line.digits) :
    line.instruction? label = none ↔ line.IsFaulty := by
  have tooLarge : Text.toUInt64? (Text.hexNumber line.digits) = none ↔
      UInt64.size ≤ Text.hexNumber line.digits := by
    simp [Text.toUInt64?]
  have blank : Text.IsBlankText (line.body.takeWhile (· ≠ ';')) ↔
      ∃ code comments, BodyReads line.body code comments ∧ Text.IsBlankText code := by
    simp only [bodyReads_iff]
    apply Iff.intro
    · intro blank
      exact ⟨_, _, ⟨rfl, rfl⟩, blank⟩
    · rintro ⟨_, _, ⟨rfl, rfl⟩, blank⟩
      exact blank
  rw [instruction?_eq numeral, IsFaulty, ← tooLarge, ← blank, ← readOperation?_eq_none_iff]
  cases Text.toUInt64? (Text.hexNumber line.digits) <;> simp

end InstructionLine

end Assembly

end Devirt
