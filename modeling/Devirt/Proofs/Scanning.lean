import Mathlib.Data.List.Basic
import Mathlib.Data.List.TakeWhile
import Devirt.Instruction.Basic

/-!
# Runs and trimmed texts

A scanner takes the longest run of characters of a class. The run is found again when it is
followed by a character outside the class or by nothing. Runs of other things are no different.
Trimming takes the blanks off at the ends, so it undoes any filling with blanks, and it leaves a
text alone exactly when there is no blank at either end. Comment lines are such texts.
-/

namespace Devirt

namespace Text

section Runs

variable {α : Type} {p : α → Bool} {run rest : List α}

/-- A run that the rest does not continue is the longest one. -/
theorem takeWhile_append_of_stop (all : ∀ c ∈ run, p c = true)
    (stop : ∀ c ∈ rest.head?, p c = false) : (run ++ rest).takeWhile p = run := by
  rw [List.takeWhile_append_of_pos all]
  cases rest with
  | nil => simp
  | cons c cs => simp [stop c rfl]

/-- Behind the longest run stands the rest. -/
theorem dropWhile_append_of_stop (all : ∀ c ∈ run, p c = true)
    (stop : ∀ c ∈ rest.head?, p c = false) : (run ++ rest).dropWhile p = rest := by
  rw [List.dropWhile_append_of_pos all]
  cases rest with
  | nil => rfl
  | cons c cs => simp [stop c rfl]

/-- A text goes on with a run in one way. -/
theorem run_append_inj {run' rest' : List α} (all : ∀ c ∈ run, p c = true)
    (stop : ∀ c ∈ rest.head?, p c = false) (all' : ∀ c ∈ run', p c = true)
    (stop' : ∀ c ∈ rest'.head?, p c = false) (same : run ++ rest = run' ++ rest') :
    run = run' ∧ rest = rest' := by
  have runs := congrArg (List.takeWhile p) same
  have rests := congrArg (List.dropWhile p) same
  rw [takeWhile_append_of_stop all stop, takeWhile_append_of_stop all' stop'] at runs
  rw [dropWhile_append_of_stop all stop, dropWhile_append_of_stop all' stop'] at rests
  exact ⟨runs, rests⟩

/-- What stands behind the longest run does not continue it. -/
theorem head?_dropWhile (p : α → Bool) (cs : List α) :
    ∀ c ∈ (cs.dropWhile p).head?, p c = false := by
  intro c mem
  have found := List.head?_dropWhile_not p cs
  rw [Option.mem_def.mp mem] at found
  simpa using found

/-- The longest run holds members of the class only. -/
theorem all_takeWhile (p : α → Bool) (cs : List α) : ∀ c ∈ cs.takeWhile p, p c = true :=
  fun _ mem => List.mem_takeWhile_imp mem

/-- What starts with a run starts with one of its members. -/
theorem mem_of_mem_head?_append (notNil : run ≠ []) {c : α} (mem : c ∈ (run ++ rest).head?) :
    c ∈ run := by
  rw [List.head?_append_of_ne_nil run notNil] at mem
  exact List.mem_of_mem_head? mem

variable [DecidableEq α] {d : α}

/-- Without a character, a text is all others. -/
theorem all_ne_of_not_mem (absent : d ∉ run) : ∀ c ∈ run, decide (c ≠ d) = true := by
  intro c mem
  rw [decide_eq_true_eq]
  exact fun same => absent (same ▸ mem)

/-- In front of the first such character stands what holds none. -/
theorem takeWhile_ne_append (absent : d ∉ run) (behind : List α) :
    (run ++ d :: behind).takeWhile (· ≠ d) = run :=
  takeWhile_append_of_stop (all_ne_of_not_mem absent) (by simp)

/-- A text is cut at the first such character. -/
theorem dropWhile_ne_append (absent : d ∉ run) (behind : List α) :
    (run ++ d :: behind).dropWhile (· ≠ d) = d :: behind :=
  dropWhile_append_of_stop (all_ne_of_not_mem absent) (by simp)

/-- What stands in front of the first such character holds none. -/
theorem not_mem_takeWhile_ne (cs : List α) : d ∉ cs.takeWhile (· ≠ d) := by
  intro mem
  simpa using all_takeWhile _ cs d mem

end Runs

section Decisions

variable (p : Char → Prop) [DecidablePred p]

/-- What holds of all characters of a text is decided along the text, although it could be decided
over all characters there are. -/
instance decidableForallMem (cs : List Char) : Decidable (∀ c ∈ cs, p c) :=
  List.decidableBAll p cs

/-- What holds of a character, if there is one, is decided at that one. -/
instance decidableForallMemOption (c? : Option Char) : Decidable (∀ c ∈ c?, p c) :=
  Option.decidableForallMem c?

end Decisions

/-- The code points of the blanks. -/
def blankCodes : List Nat :=
  [0x9, 0xA, 0xB, 0xC, 0xD, 0x20, 0x85, 0xA0, 0x1680, 0x2000, 0x2001, 0x2002, 0x2003, 0x2004,
   0x2005, 0x2006, 0x2007, 0x2008, 0x2009, 0x200A, 0x2028, 0x2029, 0x202F, 0x205F, 0x3000]

/-- What holds of the blanks one by one holds of a blank. -/
theorem of_isBlank {P : Char → Prop} (each : ∀ n ∈ blankCodes, P (Char.ofNat n)) {c : Char}
    (blank : isBlank c = true) : P c := by
  rw [← Char.ofNat_toNat c]
  apply each
  simp only [isBlank, Bool.or_eq_true, Bool.and_eq_true, decide_eq_true_eq, beq_iff_eq] at blank
  simp only [blankCodes, List.mem_cons, List.not_mem_nil, or_false]
  omega

/-- Every character of the text is blank. -/
def IsBlankText (cs : List Char) : Prop := ∀ c ∈ cs, isBlank c = true

/-- The empty text is blank. -/
theorem isBlankText_nil : IsBlankText [] := fun _ mem => absurd mem List.not_mem_nil

/-- No blank stands at either end of the text. -/
def HasBareEnds (cs : List Char) : Prop :=
  (∀ c ∈ cs.head?, isBlank c = false) ∧ ∀ c ∈ cs.getLast?, isBlank c = false

instance : DecidablePred HasBareEnds := fun cs =>
  inferInstanceAs (Decidable ((∀ c ∈ cs.head?, isBlank c = false) ∧
    ∀ c ∈ cs.getLast?, isBlank c = false))

/-- Blanks in front are taken off. -/
theorem trimStart_append {blanks : List Char} (blank : IsBlankText blanks) (cs : List Char) :
    trimStart (blanks ++ cs) = trimStart cs :=
  List.dropWhile_append_of_pos blank

/-- Blanks behind are taken off. -/
theorem trimEnd_append {blanks : List Char} (blank : IsBlankText blanks) (cs : List Char) :
    trimEnd (cs ++ blanks) = trimEnd cs := by
  have reversed : IsBlankText blanks.reverse := fun c mem => blank c (List.mem_reverse.mp mem)
  rw [trimEnd, List.reverse_append, List.dropWhile_append_of_pos reversed, trimEnd]

/-- A text that ends with no blank loses nothing behind. -/
theorem trimEnd_eq_self {cs : List Char} (bare : ∀ c ∈ cs.getLast?, isBlank c = false) :
    trimEnd cs = cs := by
  have start : trimStart cs.reverse = cs.reverse :=
    trimStart_eq_self fun c mem => bare c (List.head?_reverse ▸ mem)
  rw [trimEnd, ← trimStart, start, List.reverse_reverse]

/-- Only blanks lose everything behind. -/
theorem trimEnd_eq_nil_iff {cs : List Char} : trimEnd cs = [] ↔ IsBlankText cs := by
  simp [trimEnd, IsBlankText]

/-- A text that is not blank keeps what stands in front of it. -/
theorem trimEnd_append_of_ne_nil {back : List Char} (visible : trimEnd back ≠ [])
    (front : List Char) : trimEnd (front ++ back) = front ++ trimEnd back := by
  have remains : (back.reverse.dropWhile isBlank).isEmpty = false := by
    rw [List.isEmpty_eq_false_iff]
    exact mt List.reverse_eq_nil_iff.mpr visible
  rw [trimEnd, List.reverse_append, List.dropWhile_append, remains]
  simp [trimEnd]

/-- A text that ends visibly is kept, whatever stands behind it. -/
theorem trimEnd_append_of_visible {front : List Char}
    (visible : ∀ c ∈ front.getLast?, isBlank c = false) (back : List Char) :
    trimEnd (front ++ back) = front ++ trimEnd back := by
  by_cases blank : trimEnd back = []
  · rw [trimEnd_append (trimEnd_eq_nil_iff.mp blank), trimEnd_eq_self visible, blank,
      List.append_nil]
  · exact trimEnd_append_of_ne_nil blank front

/-- What trimming leaves behind is not blank. -/
theorem isBlank_getLast?_trimEnd (cs : List Char) :
    ∀ c ∈ (trimEnd cs).getLast?, isBlank c = false := by
  rw [trimEnd, List.getLast?_reverse]
  exact isBlank_head?_trimStart cs.reverse

/-- A text is what trimming leaves of it with blanks behind. -/
theorem exists_trimEnd_append (cs : List Char) :
    ∃ blanks, IsBlankText blanks ∧ cs = trimEnd cs ++ blanks := by
  refine ⟨(cs.reverse.takeWhile isBlank).reverse, fun c mem => ?_, ?_⟩
  · exact List.mem_takeWhile_imp (List.mem_reverse.mp mem)
  · rw [trimEnd, ← List.reverse_append, List.takeWhile_append_dropWhile, List.reverse_reverse]

/-- Trimming adds no characters. -/
theorem not_mem_trimEnd {c : Char} {cs : List Char} (absent : c ∉ cs) : c ∉ trimEnd cs := by
  intro mem
  obtain ⟨blanks, _, split⟩ := exists_trimEnd_append cs
  exact absent (split ▸ List.mem_append_left blanks mem)

/-- What is left of a text starts as the text does. -/
theorem mem_head?_of_mem_head?_trimEnd {c : Char} {cs : List Char}
    (mem : c ∈ (trimEnd cs).head?) : c ∈ cs.head? := by
  obtain ⟨blanks, _, split⟩ := exists_trimEnd_append cs
  obtain ⟨rest, starts⟩ := List.head?_eq_some_iff.mp mem
  rw [starts] at split
  rw [split]
  rfl

/-- A text is what trimming leaves of it with blanks in front. -/
theorem exists_append_trimStart (cs : List Char) :
    ∃ blanks, IsBlankText blanks ∧ cs = blanks ++ trimStart cs :=
  ⟨cs.takeWhile isBlank, all_takeWhile isBlank cs, List.takeWhile_append_dropWhile.symm⟩

/-- A text that starts with no blank keeps its first character when the end is trimmed. -/
theorem head?_trimEnd {cs : List Char} (visible : ∀ c ∈ cs.head?, isBlank c = false) :
    (trimEnd cs).head? = cs.head? := by
  obtain ⟨blanks, blank, split⟩ := exists_trimEnd_append cs
  cases start : trimEnd cs with
  | nil =>
    rw [start, List.nil_append] at split
    cases cs with
    | nil => rfl
    | cons c rest =>
      have blankStart := blank c (split ▸ List.mem_cons_self)
      rw [visible c rfl] at blankStart
      cases blankStart
  | cons c rest =>
    rw [start] at split
    rw [split]
    rfl

/-- What trimming leaves starts as what trimming the start leaves. -/
theorem head?_trim (cs : List Char) : (trim cs).head? = (trimStart cs).head? :=
  head?_trimEnd (isBlank_head?_trimStart cs)

/-- Trimming leaves no blank at either end. -/
theorem hasBareEnds_trim (cs : List Char) : HasBareEnds (trim cs) := by
  refine ⟨?_, isBlank_getLast?_trimEnd _⟩
  rw [trim, ← trimStart_trimEnd_of_head (isBlank_head?_trimStart cs)]
  exact isBlank_head?_trimStart _

/-- Trimming undoes filling with blanks at both ends. -/
theorem trim_fill {front back cs : List Char} (frontBlank : IsBlankText front)
    (backBlank : IsBlankText back) (bare : HasBareEnds cs) : trim (front ++ cs ++ back) = cs := by
  rw [trim, List.append_assoc, trimStart_append frontBlank]
  cases cs with
  | nil =>
    have gone : trimStart back = [] := List.append_nil back ▸ trimStart_append backBlank []
    rw [List.nil_append, gone]
    rfl
  | cons c cs =>
    have start : trimStart (c :: cs ++ back) = c :: cs ++ back :=
      trimStart_eq_self fun d mem => bare.1 d mem
    rw [start, trimEnd_append backBlank, trimEnd_eq_self bare.2]

/-- A text without blanks at its ends only loses blanks at the end of what stands behind it. -/
theorem trim_append_of_hasBareEnds {front : List Char} (notNil : front ≠ [])
    (bare : HasBareEnds front) (back : List Char) :
    trim (front ++ back) = front ++ trimEnd back := by
  have start : trimStart (front ++ back) = front ++ back :=
    trimStart_eq_self fun c mem => bare.1 c (List.head?_append_of_ne_nil front notNil ▸ mem)
  rw [trim, start, trimEnd_append_of_visible bare.2]

/-- A text without blanks at its ends is its own trimmed form. -/
theorem trim_eq_self {cs : List Char} (bare : HasBareEnds cs) : trim cs = cs := by
  simpa using trim_fill isBlankText_nil isBlankText_nil bare

/-- A text is its trimmed form with blanks at both ends. -/
theorem exists_fill_trim (cs : List Char) :
    ∃ front back, IsBlankText front ∧ IsBlankText back ∧ cs = front ++ trim cs ++ back := by
  obtain ⟨front, frontBlank, startSplit⟩ := exists_append_trimStart cs
  obtain ⟨back, backBlank, endSplit⟩ := exists_trimEnd_append (trimStart cs)
  refine ⟨front, back, frontBlank, backBlank, ?_⟩
  rw [List.append_assoc, trim, ← endSplit, ← startSplit]

/-- A trimmed text is empty when all characters were blank. -/
theorem trim_eq_nil_iff {cs : List Char} : trim cs = [] ↔ IsBlankText cs := by
  apply Iff.intro
  · intro empty
    obtain ⟨front, back, frontBlank, backBlank, split⟩ := exists_fill_trim cs
    rw [empty, List.append_nil] at split
    rw [split]
    intro c mem
    exact (List.mem_append.mp mem).elim (frontBlank c) (backBlank c)
  · intro blank
    have bare : HasBareEnds [] := by simp [HasBareEnds]
    simpa using trim_fill blank isBlankText_nil bare

end Text

namespace Comment

/-- A comment line has no blanks at its ends. -/
theorem hasBareEnds (comment : Comment) : Text.HasBareEnds comment.text.toList := by
  have same := congrArg String.toList comment.trimmed
  rw [Text.trimmed, String.toList_ofList] at same
  rw [← same]
  exact Text.hasBareEnds_trim _

/-- A comment line that is not empty ends visibly, whatever stands in front of it. -/
theorem visible_append {comment : Comment} (notEmpty : comment.text ≠ "") (front : List Char) :
    ∀ c ∈ (front ++ comment.text.toList).getLast?, Text.isBlank c = false := by
  rw [List.getLast?_append_of_ne_nil _ (mt String.toList_eq_nil_iff.mp notEmpty)]
  exact comment.hasBareEnds.2

end Comment

end Devirt
