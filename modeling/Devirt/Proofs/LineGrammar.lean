import Mathlib.Data.List.Basic
import Devirt.Assembly.Line
import Devirt.Proofs.Scanning

/-!
# The grammar of assembly lines

What a line of each kind looks like is said here without a reader. The forms overlap: a label may
hold an address, a word in front of an address may be an address, and every line has the last
form. A line is what the first form says that it has, and for each form there is one way only to
read a line by it, so a line reads as one thing. The reader finds it.
-/

namespace Devirt

namespace Text

/-- Blanks are what trimming takes off in front of a text that starts with none. -/
theorem trimStart_append_of_visible {blanks cs : List Char} (blank : IsBlankText blanks)
    (visible : ∀ c ∈ cs.head?, isBlank c = false) : trimStart (blanks ++ cs) = cs := by
  rw [trimStart_append blank, trimStart_eq_self visible]

/-- A word ends where a blank stands behind it. -/
theorem head?_append_isBlank {blanks : List Char} (notNil : blanks ≠ [])
    (blank : IsBlankText blanks) (cs : List Char) :
    ∀ c ∈ (blanks ++ cs).head?, (!isBlank c) = false := by
  obtain ⟨first, rest, rfl⟩ := List.exists_cons_of_ne_nil notNil
  simpa using blank first (List.mem_cons_self)

/-- One or more characters, none of them blank. -/
def IsWordText (cs : List Char) : Prop := cs ≠ [] ∧ ∀ c ∈ cs, isBlank c = false

/-- The first character of a word is visible. -/
theorem IsWordText.visible_append {word : List Char} (isWord : IsWordText word)
    (behind : List Char) : ∀ c ∈ (word ++ behind).head?, isBlank c = false :=
  fun c mem => isWord.2 c (mem_of_mem_head?_append isWord.1 mem)

/-- A word has no blanks at its ends. -/
theorem IsWordText.hasBareEnds {word : List Char} (isWord : IsWordText word) :
    HasBareEnds word :=
  ⟨fun c mem => isWord.2 c (List.mem_of_mem_head? mem),
    fun c mem => isWord.2 c (List.mem_of_getLast? mem)⟩

/-- The hexadecimal digits, by their values. -/
def hexDigits : List Char := "0123456789abcdef".toList

/-- The value of a hexadecimal digit is its place among the digits. Capital letters count as small
ones, and no other character is a digit. -/
theorem hexValue?_eq (c : Char) :
    hexValue? c =
      if c.toLower ∈ hexDigits then some (hexDigits.idxOf c.toLower) else none := by
  by_cases ascii : c.toNat < 0x80
  · have each : ∀ n < 0x80, hexValue? (Char.ofNat n) =
        if (Char.ofNat n).toLower ∈ hexDigits then some (hexDigits.idxOf (Char.ofNat n).toLower)
        else none := by
      decide +kernel
    exact Char.ofNat_toNat c ▸ each c.toNat ascii
  · have above (last : Char) (small : last.toNat < 0x80) : ¬ c ≤ last := by
      rw [Char.le_def, UInt32.le_iff_toNat_le]
      exact fun le => ascii (Nat.lt_of_le_of_lt le small)
    have same : c.toLower = c := dif_neg fun both => above 'Z' (by decide) both.2
    have noDigit : ¬ c.isDigit = true := by
      rw [Char.isDigit, Bool.and_eq_true, decide_eq_true_eq, decide_eq_true_eq]
      exact fun both => above '9' (by decide) both.2
    have small : ∀ digit ∈ hexDigits, digit.toNat < 0x80 := by decide +kernel
    rw [same, if_neg fun mem => ascii (small c mem), hexValue?, if_neg noDigit,
      if_neg fun both => above 'f' (by decide) both.2,
      if_neg fun both => above 'F' (by decide) both.2]

/-- The digits are those among which a character has its value. -/
theorem isHexDigit_iff {c : Char} : isHexDigit c = true ↔ c.toLower ∈ hexDigits := by
  rw [isHexDigit, hexValue?_eq]
  split <;> simp_all

/-- One or more hexadecimal digits. -/
def IsHexNumeral (cs : List Char) : Prop := cs ≠ [] ∧ ∀ c ∈ cs, c.toLower ∈ hexDigits

end Text

namespace Assembly

/-- An address with its colon, and the text behind it. -/
def addressText (digits body : List Char) : List Char := '0' :: 'x' :: (digits ++ ':' :: body)

/-- A line has the form of a kind of line. -/
inductive Line.Fits (cs : List Char) : Line → Prop
  | blank (blank : Text.IsBlankText cs) : Fits cs .blank
  | comment (front behind : List Char) (blank : Text.IsBlankText front)
      (whole : cs = front ++ ';' :: behind) :
      Fits cs (.comment (Comment.ofText (String.ofList cs)))
  | label (front inside behind : List Char) (frontBlank : Text.IsBlankText front)
      (notNil : inside ≠ []) (absent : ']' ∉ inside) (behindBlank : Text.IsBlankText behind)
      (whole : cs = front ++ '[' :: (inside ++ ']' :: behind)) : Fits cs (.label inside)
  | labelled (front word between digits body : List Char) (frontBlank : Text.IsBlankText front)
      (isWord : Text.IsWordText word) (notNil : between ≠ [])
      (betweenBlank : Text.IsBlankText between) (numeral : Text.IsHexNumeral digits)
      (whole : cs = front ++ (word ++ (between ++ addressText digits body))) :
      Fits cs (.instruction ⟨some word, digits, body⟩)
  | unlabelled (front digits body : List Char) (blank : Text.IsBlankText front)
      (numeral : Text.IsHexNumeral digits) (whole : cs = front ++ addressText digits body) :
      Fits cs (.instruction ⟨none, digits, body⟩)
  | other : Fits cs .other

/-- The place of a kind of line in the order in which the forms count. -/
def Line.rank : Line → Nat
  | .blank => 0
  | .comment _ => 1
  | .label _ => 2
  | .instruction ⟨some _, _, _⟩ => 3
  | .instruction ⟨none, _, _⟩ => 4
  | .other => 5

/-- A line reads as what the first of its forms says. -/
def Line.Reads (cs : List Char) (line : Line) : Prop :=
  Line.Fits cs line ∧ ∀ rival, Line.Fits cs rival → line.rank ≤ rival.rank

section Readers

variable {cs word digits body inside : List Char} {line : InstructionLine}

/-- An address is read off a text exactly when the text starts with it. -/
theorem readAddress?_eq_some_iff :
    readAddress? cs = some (digits, body) ↔
      Text.IsHexNumeral digits ∧ cs = addressText digits body := by
  apply Iff.intro
  · intro read
    unfold readAddress? at read
    split at read
    · rename_i cs
      split at read
      · rename_i behind split
        dsimp only at read
        split_ifs at read with empty
        obtain ⟨rfl, rfl⟩ := Prod.mk.inj (Option.some.inj read)
        refine ⟨⟨empty, fun c mem => Text.isHexDigit_iff.mp ?_⟩, ?_⟩
        · exact Text.all_takeWhile Text.isHexDigit cs c mem
        rw [addressText, ← split, List.takeWhile_append_dropWhile]
      · cases read
    · cases read
  · rintro ⟨⟨notNil, lower⟩, rfl⟩
    have all : ∀ c ∈ digits, Text.isHexDigit c = true := fun c mem =>
      Text.isHexDigit_iff.mpr (lower c mem)
    have stop : ∀ c ∈ (':' :: body).head?, Text.isHexDigit c = false := by
      simp only [List.head?_cons, Option.mem_some_iff, forall_eq']
      decide
    simp only [readAddress?, addressText, Text.takeWhile_append_of_stop all stop,
      Text.dropWhile_append_of_stop all stop, if_neg notNil]

/-- An address starts with no blank. -/
theorem visible_addressText (digits body : List Char) :
    ∀ c ∈ (addressText digits body).head?, Text.isBlank c = false := by
  simp only [addressText, List.head?_cons, Option.mem_some_iff, forall_eq']
  decide

/-- A word is read in front of an address exactly when blanks stand between the two. -/
theorem readLabelled?_eq_some_iff :
    readLabelled? cs = some ⟨some word, digits, body⟩ ↔
      ∃ between, Text.IsWordText word ∧ between ≠ [] ∧ Text.IsBlankText between ∧
        Text.IsHexNumeral digits ∧ cs = word ++ (between ++ addressText digits body) := by
  apply Iff.intro
  · intro read
    rw [readLabelled?] at read
    dsimp only at read
    split_ifs at read with missing
    obtain ⟨wordRead, behindRead⟩ := not_or.mp missing
    obtain ⟨parts, addressRead, same⟩ := Option.map_eq_some_iff.mp read
    obtain ⟨sameWord, rfl, rfl⟩ := InstructionLine.mk.inj same
    obtain ⟨numeral, starts⟩ := readAddress?_eq_some_iff.mp addressRead
    obtain ⟨between, betweenBlank, split⟩ :=
      Text.exists_append_trimStart (cs.dropWhile (!Text.isBlank ·))
    refine ⟨between, ⟨?_, ?_⟩, ?_, betweenBlank, numeral, ?_⟩
    · exact Option.some.inj sameWord ▸ wordRead
    · intro c mem
      rw [← Option.some.inj sameWord] at mem
      simpa using Text.all_takeWhile _ cs c mem
    · rintro rfl
      -- Without blanks the address would stand directly behind the word and continue it.
      have blank := Text.head?_dropWhile (!Text.isBlank ·) cs
      rw [split, List.nil_append, starts] at blank
      exact absurd (blank '0' rfl) (by decide)
    · rw [← starts, ← split, ← Option.some.inj sameWord, List.takeWhile_append_dropWhile]
  · rintro ⟨between, ⟨wordNotNil, visible⟩, betweenNotNil, betweenBlank, numeral, rfl⟩
    have all : ∀ c ∈ word, (!Text.isBlank c) = true := by simpa using visible
    have stop := Text.head?_append_isBlank betweenNotNil betweenBlank (addressText digits body)
    have address := readAddress?_eq_some_iff.mpr ⟨numeral, Eq.refl (addressText digits body)⟩
    rw [readLabelled?, Text.takeWhile_append_of_stop all stop,
      Text.dropWhile_append_of_stop all stop,
      Text.trimStart_append_of_visible betweenBlank (visible_addressText digits body), address]
    simp [wordNotNil, betweenNotNil]

/-- A labelled reading has a label. -/
theorem exists_of_readLabelled? (read : readLabelled? cs = some line) :
    ∃ word digits body, line = ⟨some word, digits, body⟩ := by
  rw [readLabelled?] at read
  dsimp only at read
  split_ifs at read
  obtain ⟨⟨digits, body⟩, _, rfl⟩ := Option.map_eq_some_iff.mp read
  exact ⟨_, digits, body, rfl⟩

/-- An unlabelled reading has none. -/
theorem exists_of_readUnlabelled? (read : readUnlabelled? cs = some line) :
    ∃ digits body, line = ⟨none, digits, body⟩ := by
  obtain ⟨⟨digits, body⟩, _, rfl⟩ := Option.map_eq_some_iff.mp read
  exact ⟨digits, body, rfl⟩

/-- The inside of brackets is read exactly when only blanks stand outside them. -/
theorem readLabel?_eq_some_iff :
    readLabel? cs = some inside ↔
      ∃ behind, inside ≠ [] ∧ ']' ∉ inside ∧ Text.IsBlankText behind ∧
        Text.trimStart cs = '[' :: (inside ++ ']' :: behind) := by
  apply Iff.intro
  · intro read
    unfold readLabel? at read
    split at read
    · rename_i rest starts
      dsimp only at read
      split at read
      · rename_i behind split
        split_ifs at read with closed
        obtain ⟨notNil, blank⟩ := closed
        refine ⟨behind, Option.some.inj read ▸ notNil, ?_, ?_, ?_⟩
        · rw [← Option.some.inj read]
          exact Text.not_mem_takeWhile_ne rest
        · intro c mem
          exact List.all_eq_true.mp blank c mem
        · rw [starts, ← split, ← Option.some.inj read, List.takeWhile_append_dropWhile]
      · cases read
    · cases read
  · rintro ⟨behind, notNil, absent, blank, starts⟩
    have allBlank : behind.all Text.isBlank = true := List.all_eq_true.mpr blank
    simp only [readLabel?, starts, Text.takeWhile_ne_append absent,
      Text.dropWhile_ne_append absent, if_pos (And.intro notNil allBlank)]

/-- What stands in front of a visible character is all that trimming takes off. -/
theorem exists_blank_append_iff {rest : List Char}
    (visible : ∀ c ∈ rest.head?, Text.isBlank c = false) :
    (∃ front, Text.IsBlankText front ∧ cs = front ++ rest) ↔ Text.trimStart cs = rest := by
  apply Iff.intro
  · rintro ⟨front, blank, rfl⟩
    exact Text.trimStart_append_of_visible blank visible
  · rintro rfl
    exact Text.exists_append_trimStart cs

end Readers

namespace Line

variable {cs inside word digits body : List Char} {written : Comment}

/-- A line is blank when trimming leaves nothing of it. -/
theorem fits_blank_iff : Fits cs .blank ↔ Text.trim cs = [] := by
  rw [Text.trim_eq_nil_iff]
  apply Iff.intro
  · rintro ⟨blank⟩
    exact blank
  · exact Fits.blank

/-- A line is a comment line when trimming leaves a semicolon in front. -/
theorem fits_comment_iff :
    Fits cs (.comment written) ↔
      (Text.trim cs).head? = some ';' ∧ written = Comment.ofText (String.ofList cs) := by
  apply Iff.intro
  · intro fits
    cases fits with
    | comment front behind blank whole =>
      refine ⟨?_, rfl⟩
      rw [Text.head?_trim, whole, Text.trimStart_append_of_visible blank (by simp; decide)]
      rfl
  · rintro ⟨starts, rfl⟩
    rw [Text.head?_trim] at starts
    obtain ⟨front, blank, whole⟩ := Text.exists_append_trimStart cs
    obtain ⟨behind, trimmed⟩ := List.head?_eq_some_iff.mp starts
    exact .comment front behind blank (trimmed ▸ whole)

/-- A line is a label when one is read. -/
theorem fits_label_iff : Fits cs (.label inside) ↔ readLabel? cs = some inside := by
  rw [readLabel?_eq_some_iff]
  apply Iff.intro
  · intro fits
    cases fits with
    | label front _ behind frontBlank notNil absent behindBlank whole =>
      refine ⟨behind, notNil, absent, behindBlank, ?_⟩
      exact (exists_blank_append_iff (by simp; decide)).mp ⟨front, frontBlank, whole⟩
  · rintro ⟨behind, notNil, absent, behindBlank, starts⟩
    obtain ⟨front, frontBlank, whole⟩ := (exists_blank_append_iff (by simp; decide)).mpr starts
    exact .label front inside behind frontBlank notNil absent behindBlank whole

/-- A line is a labelled instruction when it is read as one. -/
theorem fits_labelled_iff :
    Fits cs (.instruction ⟨some word, digits, body⟩) ↔
      readLabelled? (Text.trimStart cs) = some ⟨some word, digits, body⟩ := by
  rw [readLabelled?_eq_some_iff]
  apply Iff.intro
  · intro fits
    cases fits with
    | labelled front _ between _ _ frontBlank isWord notNil betweenBlank numeral whole =>
      exact ⟨between, isWord, notNil, betweenBlank, numeral,
        (exists_blank_append_iff (isWord.visible_append _)).mp ⟨front, frontBlank, whole⟩⟩
  · rintro ⟨between, isWord, notNil, betweenBlank, numeral, starts⟩
    obtain ⟨front, frontBlank, whole⟩ :=
      (exists_blank_append_iff (isWord.visible_append _)).mpr starts
    exact .labelled front word between digits body frontBlank isWord notNil betweenBlank numeral
      whole

/-- A line is an instruction without a label when it is read as one. -/
theorem fits_unlabelled_iff :
    Fits cs (.instruction ⟨none, digits, body⟩) ↔
      readUnlabelled? (Text.trimStart cs) = some ⟨none, digits, body⟩ := by
  have address : readUnlabelled? (Text.trimStart cs) = some ⟨none, digits, body⟩ ↔
      readAddress? (Text.trimStart cs) = some (digits, body) := by
    simp [readUnlabelled?]
  rw [address, readAddress?_eq_some_iff]
  apply Iff.intro
  · intro fits
    cases fits with
    | unlabelled front _ _ blank numeral whole =>
      exact ⟨numeral,
        (exists_blank_append_iff (visible_addressText digits body)).mp ⟨front, blank, whole⟩⟩
  · rintro ⟨numeral, starts⟩
    obtain ⟨front, blank, whole⟩ :=
      (exists_blank_append_iff (visible_addressText digits body)).mpr starts
    exact .unlabelled front digits body blank numeral whole

/-- What a line says by the form that has a rank. -/
def readingBy? (cs : List Char) : Nat → Option Line
  | 0 => if Text.trim cs = [] then some .blank else none
  | 1 =>
    if (Text.trim cs).head? = some ';' then some (.comment (Comment.ofText (String.ofList cs)))
    else none
  | 2 => (readLabel? cs).map .label
  | 3 => (readLabelled? (Text.trimStart cs)).map .instruction
  | 4 => (readUnlabelled? (Text.trimStart cs)).map .instruction
  | _ => some .other

/-- A line is what it says by one of the forms. -/
theorem fits_iff {line : Line} : Fits cs line ↔ readingBy? cs line.rank = some line := by
  match line with
  | .blank => simp [fits_blank_iff, rank, readingBy?]
  | .comment _ => simp [fits_comment_iff, rank, readingBy?, eq_comm]
  | .label _ => simp [fits_label_iff, rank, readingBy?]
  | .instruction ⟨some _, _, _⟩ => simp [fits_labelled_iff, rank, readingBy?]
  | .instruction ⟨none, _, _⟩ => simp [fits_unlabelled_iff, rank, readingBy?]
  | .other => exact ⟨fun _ => rfl, fun _ => .other⟩

/-- For each form there is one way only to read a line by it. -/
theorem eq_of_fits {a b : Line} (fits : Fits cs a) (alsoFits : Fits cs b)
    (same : a.rank = b.rank) : a = b := by
  rw [fits_iff] at fits alsoFits
  rw [same] at fits
  exact Option.some.inj (fits.symm.trans alsoFits)

/-- Without the first forms a line is at best what a later form says. -/
theorem rank_le_of_fits {rival : Line} (fits : Fits cs rival) {least : Nat}
    (blank : Text.trim cs = [] → least ≤ 0) (comment : (Text.trim cs).head? = some ';' → least ≤ 1)
    (label : readLabel? cs ≠ none → least ≤ 2)
    (labelled : readLabelled? (Text.trimStart cs) ≠ none → least ≤ 3)
    (unlabelled : readUnlabelled? (Text.trimStart cs) ≠ none → least ≤ 4) (other : least ≤ 5) :
    least ≤ rival.rank := by
  match rival with
  | .blank => exact blank (fits_blank_iff.mp fits)
  | .comment _ => exact comment (fits_comment_iff.mp fits).1
  | .label _ => exact label (by simp [fits_label_iff.mp fits])
  | .instruction ⟨some _, _, _⟩ => exact labelled (by simp [fits_labelled_iff.mp fits])
  | .instruction ⟨none, _, _⟩ => exact unlabelled (by simp [fits_unlabelled_iff.mp fits])
  | .other => exact other

/-- A line reads as what it is taken for. -/
theorem reads_ofText (cs : List Char) : Line.Reads cs (Line.ofText cs) := by
  rw [Line.ofText]
  split
  · rename_i empty
    exact ⟨fits_blank_iff.mpr empty, fun _ _ => Nat.zero_le _⟩
  · rename_i rest starts
    have semicolon : (Text.trim cs).head? = some ';' := by rw [starts, List.head?_cons]
    refine ⟨fits_comment_iff.mpr ⟨semicolon, rfl⟩, fun rival fits => ?_⟩
    exact rank_le_of_fits fits (by simp [starts]) (by simp [rank]) (by simp [rank]) (by simp [rank])
      (by simp [rank]) (by simp [rank])
  · rename_i notBlank notComment
    have notSemicolon : (Text.trim cs).head? ≠ some ';' := fun starts =>
      (List.head?_eq_some_iff.mp starts).elim notComment
    cases labelRead : readLabel? cs with
    | some inside =>
      refine ⟨fits_label_iff.mpr labelRead, fun rival fits => ?_⟩
      exact rank_le_of_fits fits (absurd · notBlank) (absurd · notSemicolon) (by simp [rank])
        (by simp [rank]) (by simp [rank]) (by simp [rank])
    | none =>
      rw [InstructionLine.ofText?]
      cases labelledRead : readLabelled? (Text.trimStart cs) with
      | some line =>
        obtain ⟨word, digits, body, rfl⟩ := exists_of_readLabelled? labelledRead
        refine ⟨fits_labelled_iff.mpr labelledRead, fun rival fits => ?_⟩
        exact rank_le_of_fits fits (absurd · notBlank) (absurd · notSemicolon) (absurd labelRead ·)
          (by simp [rank]) (by simp [rank]) (by simp [rank])
      | none =>
        cases unlabelledRead : readUnlabelled? (Text.trimStart cs) with
        | some line =>
          obtain ⟨digits, body, rfl⟩ := exists_of_readUnlabelled? unlabelledRead
          have instruction := fits_unlabelled_iff.mpr unlabelledRead
          refine ⟨by simpa [unlabelledRead] using instruction, fun rival fits => ?_⟩
          exact rank_le_of_fits fits (absurd · notBlank) (absurd · notSemicolon)
            (absurd labelRead ·) (absurd labelledRead ·) (by simp [rank])
            (by simp [rank])
        | none =>
          refine ⟨by simpa [unlabelledRead] using Fits.other, fun rival fits => ?_⟩
          exact rank_le_of_fits fits (absurd · notBlank) (absurd · notSemicolon)
            (absurd labelRead ·) (absurd labelledRead ·) (absurd unlabelledRead ·)
            (by simp [rank])

/-- A line reads as what it is taken for, and as nothing else. -/
theorem reads_iff {line : Line} : Line.Reads cs line ↔ Line.ofText cs = line := by
  have found := reads_ofText cs
  apply Iff.intro
  · intro reads
    exact eq_of_fits found.1 reads.1 (le_antisymm (found.2 _ reads.1) (reads.2 _ found.1))
  · rintro rfl
    exact found

end Line

end Assembly

end Devirt
