import Mathlib.Data.List.Basic
import Devirt.Assembly.Operands
import Devirt.Proofs.Scanning

/-!
# Operands as a normal form

A text is cut into operands at the commas in front of which no more brackets are opened than
closed. The count runs on from operand to operand and may fall below zero, so whether a comma
separates depends on all that stands in front of it. But what is taken out of a text on the way
to its operands, separating commas, blanks and empty operands, holds no bracket. So the count at
what remains stays the same when the operands are written one behind the other again, and they
are read back, whatever the text was.
-/

namespace Devirt.Assembly

/-- How many more brackets a text opens than it closes. -/
def openBrackets (cs : List Char) : Int :=
  (cs.count '(' + cs.count '[' : Nat) - (cs.count ')' + cs.count ']' : Nat)

/-- No comma separates in a text behind which `depth` brackets are open. -/
def IsWhole (depth : Int) (cs : List Char) : Prop :=
  ∀ front behind, cs = front ++ ',' :: behind → 0 < depth + openBrackets front

/-- The commas between the pieces separate, and none inside them does, when `depth` brackets are
open in front of the first. -/
def IsCut (depth : Int) : List (List Char) → Prop
  | [] => True
  | piece :: rest =>
    IsWhole depth piece ∧ (rest ≠ [] → depth + openBrackets piece ≤ 0) ∧
      IsCut (depth + openBrackets piece) rest

/-- A text lists operands: it is made of pieces with separating commas between them, and these are
the operands, less the blanks at their ends and without the empty ones. -/
def ListsOperands (cs : List Char) (operands : List String) : Prop :=
  ∃ pieces, pieces ≠ [] ∧ IsCut 0 pieces ∧ [','].intercalate pieces = cs ∧
    operands = ((pieces.map Text.trim).filter (· ≠ [])).map String.ofList

/-- The operands with a comma and a space between neighbours. -/
def joinOperands (texts : List (List Char)) : List Char := [',', ' '].intercalate texts

section Brackets

variable {c : Char} {cs : List Char}

/-- The empty text has no brackets. -/
@[simp]
theorem openBrackets_nil : openBrackets [] = 0 := rfl

/-- Brackets of texts add up. -/
theorem openBrackets_append (front back : List Char) :
    openBrackets (front ++ back) = openBrackets front + openBrackets back := by
  simp only [openBrackets, List.count_append]
  omega

/-- A character changes the count by its step. -/
theorem openBrackets_singleton (c : Char) : openBrackets [c] = bracketStep c := by
  simp only [openBrackets, bracketStep, List.count_singleton, beq_iff_eq]
  grind

/-- Brackets are counted one character after the other. -/
theorem openBrackets_cons (c : Char) (cs : List Char) :
    openBrackets (c :: cs) = bracketStep c + openBrackets cs := by
  rw [← List.singleton_append, openBrackets_append, openBrackets_singleton]

/-- Blanks are no brackets. -/
theorem openBrackets_of_isBlankText (blank : Text.IsBlankText cs) : openBrackets cs = 0 := by
  have absent (bracket : Char) (visible : Text.isBlank bracket = false) : cs.count bracket = 0 :=
    List.count_eq_zero_of_not_mem fun mem => by simp [blank bracket mem] at visible
  simp [openBrackets, absent '(' (by decide), absent ')' (by decide), absent '[' (by decide),
    absent ']' (by decide)]

/-- Trimming takes no brackets. -/
theorem openBrackets_trim (cs : List Char) : openBrackets (Text.trim cs) = openBrackets cs := by
  obtain ⟨front, back, frontBlank, backBlank, whole⟩ := Text.exists_fill_trim cs
  conv_rhs => rw [whole]
  simp [openBrackets_append, openBrackets_of_isBlankText frontBlank,
    openBrackets_of_isBlankText backBlank]

end Brackets

section Cuts

variable {depth : Int} {c : Char} {cs piece : List Char} {pieces : List (List Char)}

/-- The empty text is whole. -/
theorem isWhole_nil (depth : Int) : IsWhole depth [] := by
  intro front behind whole
  simp at whole

/-- A text is whole when its first character is no separating comma and the rest is whole. -/
theorem isWhole_cons_iff :
    IsWhole depth (c :: cs) ↔ ¬ (c = ',' ∧ depth ≤ 0) ∧ IsWhole (depth + bracketStep c) cs := by
  apply Iff.intro
  · intro whole
    apply And.intro
    · rintro ⟨rfl, low⟩
      have high := whole [] cs rfl
      simp [openBrackets] at high
      omega
    · intro front behind split
      have high := whole (c :: front) behind (by rw [split, List.cons_append])
      rw [openBrackets_cons] at high
      omega
  · rintro ⟨kept, whole⟩ front behind split
    cases front with
    | nil =>
      obtain ⟨rfl, _⟩ := List.cons.inj split
      rw [openBrackets_nil]
      by_contra low
      exact kept ⟨rfl, by omega⟩
    | cons d front =>
      obtain ⟨rfl, others⟩ := List.cons.inj split
      rw [openBrackets_cons, ← Int.add_assoc]
      exact whole front behind others

/-- What stands in the middle of a whole text is whole, when no brackets stand in front of it. -/
theorem IsWhole.middle {front back : List Char} (whole : IsWhole depth (front ++ cs ++ back))
    (none : openBrackets front = 0) : IsWhole depth cs := by
  rintro inFront behind rfl
  have high := whole (front ++ inFront) (behind ++ back) (by simp)
  rw [openBrackets_append, none, Int.zero_add] at high
  exact high

/-- A whole text is whole without the blanks at its ends. -/
theorem IsWhole.trim (whole : IsWhole depth cs) : IsWhole depth (Text.trim cs) := by
  obtain ⟨front, back, frontBlank, _, split⟩ := Text.exists_fill_trim cs
  rw [split] at whole
  exact whole.middle (openBrackets_of_isBlankText frontBlank)

/-- No comma cuts a whole text. -/
theorem cutOperands_of_isWhole (whole : IsWhole depth cs) : cutOperands depth cs = [cs] := by
  induction cs generalizing depth with
  | nil => rfl
  | cons c cs ih =>
    obtain ⟨kept, behind⟩ := isWhole_cons_iff.mp whole
    rw [cutOperands, if_neg kept, ih behind, consFirst]

/-- The comma behind a whole text cuts when it separates. -/
theorem cutOperands_append (whole : IsWhole depth cs) (separates : depth + openBrackets cs ≤ 0)
    (rest : List Char) :
    cutOperands depth (cs ++ ',' :: rest) = cs :: cutOperands (depth + openBrackets cs) rest := by
  induction cs generalizing depth with
  | nil =>
    rw [openBrackets_nil, Int.add_zero] at separates ⊢
    rw [List.nil_append, cutOperands, if_pos ⟨rfl, separates⟩]
  | cons c cs ih =>
    obtain ⟨kept, behind⟩ := isWhole_cons_iff.mp whole
    rw [openBrackets_cons, ← Int.add_assoc] at separates ⊢
    rw [List.cons_append, cutOperands, if_neg kept, ih behind separates, consFirst]

/-- An empty piece in front stands for a comma more that separates. -/
theorem isCut_nil_cons_iff :
    IsCut depth ([] :: pieces) ↔ (pieces ≠ [] → depth ≤ 0) ∧ IsCut depth pieces := by
  simp [IsCut, isWhole_nil]

/-- A character in front of the first piece moves no cut, unless it is a separating comma. -/
theorem IsCut.consFirst (cut : IsCut (depth + bracketStep c) pieces)
    (kept : ¬ (c = ',' ∧ depth ≤ 0)) : IsCut depth (Devirt.consFirst c pieces) := by
  cases pieces with
  | nil => exact ⟨isWhole_cons_iff.mpr ⟨kept, isWhole_nil _⟩, by simp, trivial⟩
  | cons first rest =>
    obtain ⟨whole, separates, others⟩ := cut
    rw [Int.add_assoc, ← openBrackets_cons] at separates others
    exact ⟨isWhole_cons_iff.mpr ⟨kept, whole⟩, separates, others⟩

/-- A text is cut where commas separate and nowhere else. -/
theorem isCut_cutOperands (depth : Int) (cs : List Char) : IsCut depth (cutOperands depth cs) := by
  induction cs generalizing depth with
  | nil => exact ⟨isWhole_nil depth, by simp, trivial⟩
  | cons c cs ih =>
    rw [cutOperands]
    split
    · rename_i separates
      exact isCut_nil_cons_iff.mpr ⟨fun _ => separates.2, ih depth⟩
    · rename_i kept
      exact (ih (depth + bracketStep c)).consFirst kept

/-- A text is whole when nothing is cut off. -/
theorem isWhole_iff : IsWhole depth cs ↔ cutOperands depth cs = [cs] := by
  refine ⟨cutOperands_of_isWhole, fun uncut => ?_⟩
  have cut := isCut_cutOperands depth cs
  rw [uncut] at cut
  exact cut.1

instance (depth : Int) : DecidablePred (IsWhole depth) := fun _ => decidable_of_iff' _ isWhole_iff

/-- Whole pieces that close what they open are cut at the commas between them. -/
theorem isCut_of_forall (each : ∀ piece ∈ pieces, openBrackets piece = 0 ∧ IsWhole 0 piece) :
    IsCut 0 pieces := by
  induction pieces with
  | nil => trivial
  | cons piece rest ih =>
    obtain ⟨⟨closed, whole⟩, others⟩ := List.forall_mem_cons.mp each
    rw [IsCut, closed]
    exact ⟨whole, fun _ => Int.le_refl 0, ih others⟩

/-- A text is cut into at least one piece. -/
theorem cutOperands_ne_nil (depth : Int) (cs : List Char) : cutOperands depth cs ≠ [] := by
  cases cs with
  | nil => exact List.cons_ne_nil _ _
  | cons c cs =>
    rw [cutOperands]
    split
    · exact List.cons_ne_nil _ _
    · exact consFirst_ne_nil c _

/-- With commas between them the pieces of a text are the text. -/
theorem intercalate_cutOperands (depth : Int) (cs : List Char) :
    [','].intercalate (cutOperands depth cs) = cs := by
  induction cs generalizing depth with
  | nil => rfl
  | cons c cs ih =>
    rw [cutOperands]
    split
    · rename_i separates
      rw [List.intercalate_cons_of_ne_nil (cutOperands_ne_nil depth cs), ih, separates.1]
      rfl
    · have behind := ih (depth + bracketStep c)
      cases cut : cutOperands (depth + bracketStep c) cs with
      | nil => exact absurd cut (cutOperands_ne_nil _ cs)
      | cons first rest =>
        rw [cut] at behind
        rw [← behind, Devirt.consFirst]
        cases rest <;> simp [List.intercalate_cons_cons]

/-- Pieces with separating commas between them are what the text is cut into. -/
theorem cutOperands_intercalate (cut : IsCut depth (piece :: pieces)) :
    cutOperands depth ([','].intercalate (piece :: pieces)) = piece :: pieces := by
  induction pieces generalizing depth piece with
  | nil =>
    rw [List.intercalate_singleton]
    exact cutOperands_of_isWhole cut.1
  | cons next rest ih =>
    obtain ⟨whole, separates, others⟩ := cut
    rw [List.intercalate_cons_cons, List.append_assoc, List.singleton_append,
      cutOperands_append whole (separates (List.cons_ne_nil _ _)), ih others]

/-- The operands that are read are those that the text lists. -/
theorem listsOperands_iff {others : List String} :
    ListsOperands cs others ↔ others = (operands cs).map String.ofList := by
  apply Iff.intro
  · intro lists
    obtain ⟨pieces, notNil, cut, rfl, rfl⟩ := lists
    obtain ⟨first, rest, rfl⟩ := List.exists_cons_of_ne_nil notNil
    rw [operands, cutOperands_intercalate cut]
  · intro same
    subst same
    exact ⟨cutOperands 0 cs, cutOperands_ne_nil 0 cs, isCut_cutOperands 0 cs,
      intercalate_cutOperands 0 cs, rfl⟩

/-- Pieces that are changed without a change of their brackets are cut at the same commas. -/
theorem IsCut.map {change : List Char → List Char}
    (brackets : ∀ piece, openBrackets (change piece) = openBrackets piece)
    (keeps : ∀ depth piece, IsWhole depth piece → IsWhole depth (change piece))
    (cut : IsCut depth pieces) : IsCut depth (pieces.map change) := by
  induction pieces generalizing depth with
  | nil => trivial
  | cons piece rest ih =>
    obtain ⟨whole, separates, others⟩ := cut
    rw [List.map_cons, IsCut, brackets]
    exact ⟨keeps depth piece whole, by simpa using separates, ih others⟩

/-- Trimmed pieces are cut at the same commas. -/
theorem IsCut.map_trim (cut : IsCut depth pieces) : IsCut depth (pieces.map Text.trim) :=
  cut.map openBrackets_trim fun _ _ => IsWhole.trim

/-- Pieces behind a space each are cut at the same commas. -/
theorem IsCut.map_space (cut : IsCut depth pieces) : IsCut depth (pieces.map (' ' :: ·)) := by
  have step : bracketStep ' ' = 0 := rfl
  refine cut.map (fun piece => ?_) fun depth piece whole => isWhole_cons_iff.mpr ?_
  · rw [openBrackets_cons, step, Int.zero_add]
  · rw [step, Int.add_zero]
    exact ⟨by simp, whole⟩

/-- Without the empty pieces the others are cut at the same commas. -/
theorem IsCut.filter_ne_nil (cut : IsCut depth pieces) : IsCut depth (pieces.filter (· ≠ [])) := by
  induction pieces generalizing depth with
  | nil => trivial
  | cons piece rest ih =>
    by_cases empty : piece = []
    · subst empty
      simpa using ih (isCut_nil_cons_iff.mp cut).2
    · obtain ⟨whole, separates, others⟩ := cut
      rw [List.filter_cons_of_pos (by simpa using empty)]
      refine ⟨whole, fun more => separates ?_, ih others⟩
      rintro rfl
      exact more rfl

/-- Operands are the pieces that a text is cut into. -/
theorem isCut_operands (cs : List Char) : IsCut 0 (operands cs) :=
  (isCut_cutOperands 0 cs).map_trim.filter_ne_nil

/-- Behind an operand stand a comma, a space and the others. -/
theorem joinOperands_cons_cons (first next : List Char) (rest : List (List Char)) :
    joinOperands (first :: next :: rest) = first ++ ',' :: ' ' :: joinOperands (next :: rest) := by
  simp [joinOperands, List.intercalate_cons_cons]

/-- Joined operands are pieces with commas between them, all but the first behind a space. -/
theorem joinOperands_cons (first : List Char) (rest : List (List Char)) :
    joinOperands (first :: rest) = [','].intercalate (first :: rest.map (' ' :: ·)) := by
  induction rest generalizing first with
  | nil => rfl
  | cons next rest ih =>
    rw [joinOperands_cons_cons, ih, List.map_cons, List.intercalate_cons_cons]
    cases rest <;> simp [List.intercalate_cons_cons]

/-- Joined pieces are cut into the first of them and the others behind a space each. -/
theorem cutOperands_joinOperands {first : List Char} {rest : List (List Char)}
    (cut : IsCut depth (first :: rest)) :
    cutOperands depth (joinOperands (first :: rest)) = first :: rest.map (' ' :: ·) := by
  obtain ⟨whole, separates, others⟩ := cut
  rw [joinOperands_cons]
  exact cutOperands_intercalate ⟨whole, by simpa using separates, others.map_space⟩

/-- Visible pieces without blanks at their ends are read back when they are joined. -/
theorem operands_joinOperands_of_isCut (cut : IsCut 0 pieces)
    (each : ∀ piece ∈ pieces, piece ≠ [] ∧ Text.HasBareEnds piece) :
    operands (joinOperands pieces) = pieces := by
  cases pieces with
  | nil => rfl
  | cons first rest =>
    obtain ⟨own, others⟩ := List.forall_mem_cons.mp each
    have space : Text.IsBlankText [' '] := by simp [Text.IsBlankText]; decide
    have spaced (piece : List Char) (mem : piece ∈ rest) : Text.trim (' ' :: piece) = piece := by
      simpa using Text.trim_fill space Text.isBlankText_nil (others piece mem).2
    have trimmed : (first :: rest.map (' ' :: ·)).map Text.trim = first :: rest := by
      rw [List.map_cons, Text.trim_eq_self own.2, List.map_map]
      exact congrArg _ ((List.map_congr_left spaced).trans (List.map_id _))
    rw [operands, cutOperands_joinOperands cut, trimmed, List.filter_eq_self]
    intro piece mem
    simpa using (each piece mem).1

end Cuts

/-- Whether a comma separates at this place of a text: in front of it no more brackets are opened
than closed. -/
def separatesAt (cs : List Char) (place : Nat) : Bool :=
  cs[place]? == some ',' && decide (openBrackets (cs.take place) ≤ 0)

/-- The visible characters of a text that are no separating commas. -/
def keptCharacters (cs : List Char) : List Char :=
  (cs.zipIdx.filter fun entry => !Text.isBlank entry.1 && !separatesAt cs entry.2).map (·.1)

/-- The visible characters of a text. -/
def visibleCharacters (cs : List Char) : List Char := cs.filter (!Text.isBlank ·)

section Kept

/-- The pieces hold all but the separating commas. -/
theorem flatten_cutOperands (front cs : List Char) :
    (cutOperands (openBrackets front) cs).flatten =
      ((cs.zipIdx front.length).filter fun entry =>
        !separatesAt (front ++ cs) entry.2).map (·.1) := by
  induction cs generalizing front with
  | nil => rfl
  | cons c cs ih =>
    have here : separatesAt (front ++ c :: cs) front.length = true ↔
        c = ',' ∧ openBrackets front ≤ 0 := by
      simp [separatesAt]
    have behind := ih (front ++ [c])
    rw [List.append_assoc, List.singleton_append, List.length_append, List.length_singleton,
      openBrackets_append, openBrackets_singleton] at behind
    rw [List.zipIdx_cons, cutOperands]
    split
    · rename_i separates
      have step : bracketStep c = 0 := by
        rw [separates.1]
        rfl
      rw [step, Int.add_zero] at behind
      rw [List.filter_cons_of_neg (by simpa using here.mpr separates), List.flatten_cons, behind]
      rfl
    · rename_i kept
      rw [List.filter_cons_of_pos (by simpa using mt here.mp kept), List.map_cons, ← behind]
      cases cutOperands (openBrackets front + bracketStep c) cs <;> simp [consFirst]

/-- Trimming takes no visible characters. -/
theorem visibleCharacters_trim (cs : List Char) :
    visibleCharacters (Text.trim cs) = visibleCharacters cs := by
  obtain ⟨front, back, frontBlank, backBlank, whole⟩ := Text.exists_fill_trim cs
  have gone {blanks : List Char} (blank : Text.IsBlankText blanks) :
      visibleCharacters blanks = [] :=
    List.filter_eq_nil_iff.mpr fun c mem => by simp [blank c mem]
  conv_rhs => rw [whole]
  rw [visibleCharacters, visibleCharacters, List.filter_append, List.filter_append]
  have first := gone frontBlank
  have last := gone backBlank
  rw [visibleCharacters] at first last
  rw [first, last, List.nil_append, List.append_nil]

/-- The operands hold the visible characters of the text but the separating commas. -/
theorem visibleCharacters_operands (cs : List Char) :
    visibleCharacters (operands cs).flatten = keptCharacters cs := by
  have pieces : visibleCharacters (operands cs).flatten =
      visibleCharacters (cutOperands 0 cs).flatten := by
    rw [operands, List.flatten_filter_ne_nil, visibleCharacters, visibleCharacters,
      List.filter_flatten, List.filter_flatten, List.map_map]
    exact congrArg _ (List.map_congr_left fun piece _ => visibleCharacters_trim piece)
  have cut : (cutOperands 0 cs).flatten = _ := flatten_cutOperands [] cs
  rw [pieces, cut, visibleCharacters, List.filter_map, List.filter_filter]
  rfl

end Kept

/-- Every operand that is read is visible and has no blanks at its ends. -/
theorem bare_of_mem_operands {cs piece : List Char} (mem : piece ∈ operands cs) :
    piece ≠ [] ∧ Text.HasBareEnds piece := by
  obtain ⟨inTrimmed, notNil⟩ := List.mem_filter.mp mem
  obtain ⟨cutPiece, _, rfl⟩ := List.mem_map.mp inTrimmed
  exact ⟨by simpa using notNil, Text.hasBareEnds_trim cutPiece⟩

/-- The joined operands, character by character. -/
theorem operands_toList_intercalate (texts : List String) :
    operands (", ".intercalate texts).toList =
      operands (joinOperands (texts.map String.toList)) := by
  rw [String.toList_intercalate]
  rfl

/-- Whatever the text, its operands are visible and have no blanks at their ends. Together they hold
its visible characters but the commas in front of which no more brackets are opened than closed.
Joined with a comma and a space they are read back as they are. So are all visible operands without
blanks at their ends that close as many brackets as they open and have commas inside brackets
only. -/
theorem operands_are_normal_form :
    (∀ text : String,
      (∀ operand ∈ splitOperands text, operand ≠ "" ∧ Text.HasBareEnds operand.toList) ∧
      visibleCharacters (String.join (splitOperands text)).toList = keptCharacters text.toList ∧
      splitOperands (", ".intercalate (splitOperands text)) = splitOperands text) ∧
    ∀ texts : List String,
      (∀ operand ∈ texts, operand ≠ "" ∧ Text.HasBareEnds operand.toList ∧
        openBrackets operand.toList = 0 ∧ IsWhole 0 operand.toList) →
      splitOperands (", ".intercalate texts) = texts := by
  have lists (text : String) : (splitOperands text).map String.toList = operands text.toList := by
    simp [splitOperands, Function.comp_def]
  apply And.intro
  · intro text
    refine ⟨?_, ?_, ?_⟩
    · intro operand mem
      obtain ⟨piece, read, rfl⟩ := List.mem_map.mp mem
      simpa using bare_of_mem_operands read
    · rw [String.toList_join, List.flatMap_def, lists, visibleCharacters_operands]
    · rw [splitOperands, operands_toList_intercalate, lists,
        operands_joinOperands_of_isCut (isCut_operands text.toList) fun _ => bare_of_mem_operands,
        splitOperands]
  · intro texts each
    have cut : IsCut 0 (texts.map String.toList) := isCut_of_forall (by simpa using
      fun operand mem => (each operand mem).2.2)
    have bare : ∀ piece ∈ texts.map String.toList, piece ≠ [] ∧ Text.HasBareEnds piece := by
      simpa using fun operand mem => And.intro (each operand mem).1 (each operand mem).2.1
    rw [splitOperands, operands_toList_intercalate, operands_joinOperands_of_isCut cut bare,
      List.map_map]
    simp [Function.comp_def]

/-- Brackets that are closed before they are opened keep the commas behind them outside, and an
address with base, index and scale is one operand. -/
theorem operands_of_unbalanced :
    splitOperands "%rax),, (%rbx ,8) ,[%rcx" = ["%rax)", "(%rbx", "8)", "[%rcx"] ∧
      splitOperands "%rax), (%rbx, 8), [%rcx" = ["%rax)", "(%rbx", "8)", "[%rcx"] ∧
      Text.HasBareEnds "(%rbx".toList ∧
      splitOperands (", ".intercalate ["0x10(%rsp,%rax,8)", "%rax"]) =
        ["0x10(%rsp,%rax,8)", "%rax"] := by
  obtain ⟨normal, read⟩ := operands_are_normal_form
  have split : splitOperands "%rax),, (%rbx ,8) ,[%rcx" = ["%rax)", "(%rbx", "8)", "[%rcx"] := by
    decide +kernel
  obtain ⟨bare, _, again⟩ := normal "%rax),, (%rbx ,8) ,[%rcx"
  rw [split] at bare again
  exact ⟨split, again, (bare "(%rbx" (by simp)).2, read _ (by decide +kernel)⟩

end Devirt.Assembly
