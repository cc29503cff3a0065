import Mathlib.Data.List.Basic
import Devirt.Proofs.Scanning
import Devirt.Text.Line

/-!
# Texts made of rows

Joining rows with line feeds and cutting at line feeds undo each other for rows that hold no
line feed. Every line feed makes a piece more, so a text that has lost line feeds at its end has
fewer pieces than rows went into it.

Which lines a text has is said here of the text alone: a line ends at a line feed, with or without
one carriage return in front of it, or at the end of the text. The reader finds these lines and no
others. They are the pieces of the text when no piece ends with a carriage return and the last one
is not empty.
-/

namespace Devirt.Text

/-- The stretches of a string between line feeds. -/
def cutAtFeeds (s : String) : List String := (pieces s.toList).map String.ofList

/-- A row in front of others. -/
theorem joinLines_cons {rest : List (List Char)} (more : rest ≠ []) (row : List Char) :
    joinLines (row :: rest) = row ++ '\n' :: joinLines rest := by
  cases rest with
  | nil => exact absurd rfl more
  | cons next rest => rfl

/-- Rows in front of others. -/
theorem joinLines_append {front back : List (List Char)} (frontSome : front ≠ [])
    (backSome : back ≠ []) :
    joinLines (front ++ back) = joinLines front ++ '\n' :: joinLines back := by
  induction front with
  | nil => exact absurd rfl frontSome
  | cons row rest ih =>
    cases rest with
    | nil => exact joinLines_cons backSome row
    | cons next rest =>
      rw [List.cons_append, joinLines_cons (by simp), ih (List.cons_ne_nil next rest),
        joinLines_cons (List.cons_ne_nil next rest), List.append_assoc, List.cons_append]

/-- Every row but the first stands behind a line feed. -/
theorem joinLines_cons_eq_flatMap (row : List Char) (rest : List (List Char)) :
    joinLines (row :: rest) = row ++ rest.flatMap ('\n' :: ·) := by
  induction rest generalizing row with
  | nil => simp [joinLines]
  | cons next rest ih =>
    rw [joinLines_cons (List.cons_ne_nil next rest), ih, List.flatMap_cons, List.cons_append]

/-- Joining is interleaving with line feeds. -/
theorem joinLines_eq_intercalate (rows : List (List Char)) :
    joinLines rows = List.intercalate ['\n'] rows := by
  induction rows with
  | nil => rfl
  | cons row rest ih =>
    cases rest with
    | nil => simp [joinLines]
    | cons next rest =>
      rw [joinLines_cons (List.cons_ne_nil next rest), ih, List.intercalate_cons_cons]
      simp

/-- A string of rows with line feeds between them. -/
theorem toList_intercalate_feed (rows : List String) :
    ("\n".intercalate rows).toList = joinLines (rows.map String.toList) := by
  rw [String.toList_intercalate, joinLines_eq_intercalate]
  rfl

/-- A line feed separates the pieces in front of it from those behind it. -/
theorem pieces_append_feed (front back : List Char) :
    pieces (front ++ '\n' :: back) = pieces front ++ pieces back := by
  induction front with
  | nil => simp [pieces]
  | cons c front ih =>
    simp only [List.cons_append, pieces, ih]
    split
    · rfl
    · cases split : pieces front with
      | nil => exact absurd split (pieces_ne_nil front)
      | cons piece rest => rfl

/-- A text without line feeds is one piece. -/
theorem pieces_eq_singleton {row : List Char} (free : '\n' ∉ row) : pieces row = [row] := by
  induction row with
  | nil => rfl
  | cons c row ih =>
    have differ : c ≠ '\n' := fun same => free (same ▸ List.mem_cons_self)
    rw [pieces, if_neg differ, ih fun mem => free (List.mem_cons_of_mem c mem)]
    rfl

/-- Joined texts have the pieces of all of them. -/
theorem pieces_joinLines {texts : List (List Char)} (notNil : texts ≠ []) :
    pieces (joinLines texts) = texts.flatMap pieces := by
  induction texts with
  | nil => exact absurd rfl notNil
  | cons text rest ih =>
    rw [List.flatMap_cons]
    cases rest with
    | nil => simp [joinLines]
    | cons next rest =>
      rw [joinLines_cons (List.cons_ne_nil next rest), pieces_append_feed,
        ih (List.cons_ne_nil next rest)]

/-- Joined rows without line feeds are cut into the rows again. -/
theorem pieces_joinLines_of_free {rows : List (List Char)} (notNil : rows ≠ [])
    (free : ∀ row ∈ rows, '\n' ∉ row) : pieces (joinLines rows) = rows := by
  have single : rows.flatMap pieces = rows.flatMap fun row => [row] :=
    List.flatMap_congr fun row mem => pieces_eq_singleton (free row mem)
  rw [pieces_joinLines notNil, single, List.flatMap_singleton']

/-- A string is cut into rows that hold no line feed exactly when it is these rows with line feeds
between them. -/
theorem cutAtFeeds_eq_iff {rows : List String} (notNil : rows ≠ [])
    (free : ∀ row ∈ rows, '\n' ∉ row.toList) {s : String} :
    cutAtFeeds s = rows ↔ "\n".intercalate rows = s := by
  rw [← String.toList_inj, toList_intercalate_feed, cutAtFeeds]
  apply Iff.intro
  · intro cut
    rw [← cut, List.map_map]
    simp [Function.comp_def, joinLines_pieces]
  · intro joined
    rw [← joined, pieces_joinLines_of_free (by simpa using notNil) (by simpa using free),
      List.map_map]
    simp [Function.comp_def]

/-- A text has one piece more than it has line feeds. -/
theorem length_pieces (cs : List Char) : (pieces cs).length = cs.count '\n' + 1 := by
  induction cs with
  | nil => rfl
  | cons c cs ih =>
    rw [pieces]
    split
    · rename_i feed
      simp [ih, feed]
    · rename_i other
      cases split : pieces cs with
      | nil => exact absurd split (pieces_ne_nil cs)
      | cons piece rest =>
        rw [split] at ih
        simp [consFirst, List.count_cons_of_ne other, ← ih]

/-- Taking blanks off the end makes no pieces. -/
theorem length_pieces_trimEnd_le (cs : List Char) :
    (pieces (trimEnd cs)).length ≤ (pieces cs).length := by
  obtain ⟨blanks, _, split⟩ := exists_trimEnd_append cs
  have count : cs.count '\n' = (trimEnd cs).count '\n' + blanks.count '\n' := by
    rw [← List.count_append, ← split]
  rw [length_pieces, length_pieces]
  omega

/-- The lines of a text are its pieces, when none ends with a carriage return and the last is not
empty. -/
theorem lines_eq_pieces {cs : List Char}
    (noReturn : ∀ piece ∈ pieces cs, piece.getLast? ≠ some '\r')
    (visible : ∀ last ∈ (pieces cs).getLast?, last ≠ []) : lines cs = pieces cs := by
  have kept : (pieces cs).dropLast.map dropReturn = (pieces cs).dropLast := by
    have each : ∀ piece ∈ (pieces cs).dropLast, dropReturn piece = id piece := by
      intro piece mem
      rw [dropReturn, if_neg (noReturn piece (List.dropLast_subset _ mem)), id]
    rw [List.map_congr_left each, List.map_id]
  rw [lines, kept]
  cases found : (pieces cs).getLast? with
  | none => exact absurd (List.getLast?_eq_none_iff.mp found) (pieces_ne_nil cs)
  | some last =>
    have shown : (some last).toList.filter (· ≠ []) = [last] := by
      simp [visible last found]
    rw [shown, List.dropLast_append_getLast? last found]

/-- A text has lines. A line ends at a line feed, and one carriage return in front of the line feed
is not part of the line. What stands behind the last line feed is a line as it is, unless nothing
stands there. -/
inductive HasLines : List Char → List (List Char) → Prop
  | empty : HasLines [] []
  | unended {line : List Char} (visible : line ≠ []) (free : '\n' ∉ line) : HasLines line [line]
  | feed {line rest : List Char} {more : List (List Char)} (free : '\n' ∉ line)
      (noReturn : line.getLast? ≠ some '\r') (behind : HasLines rest more) :
      HasLines (line ++ '\n' :: rest) (line :: more)
  | returnFeed {line rest : List Char} {more : List (List Char)} (free : '\n' ∉ line)
      (behind : HasLines rest more) : HasLines (line ++ '\r' :: '\n' :: rest) (line :: more)

section HasLines

variable {cs line : List Char}

/-- A text without line feeds is one line, or none if it is empty. -/
theorem lines_of_free (free : '\n' ∉ cs) : lines cs = [cs].filter (· ≠ []) := by
  rw [lines, pieces_eq_singleton free]
  rfl

/-- A line feed ends a line, and the lines behind it are those of the rest. -/
theorem lines_append_feed (free : '\n' ∉ line) (rest : List Char) :
    lines (line ++ '\n' :: rest) = dropReturn line :: lines rest := by
  have last : (line :: pieces rest).getLast? = (pieces rest).getLast? :=
    List.getLast?_cons_of_ne_nil (pieces_ne_nil rest)
  rw [lines, pieces_append_feed, pieces_eq_singleton free, List.singleton_append, last,
    List.dropLast_cons_of_ne_nil (pieces_ne_nil rest), List.map_cons, List.cons_append, lines]

/-- One carriage return is taken off. -/
theorem dropReturn_append_return (line : List Char) : dropReturn (line ++ ['\r']) = line := by
  simp [dropReturn]

/-- The lines that are read are lines of the text. -/
theorem hasLines_lines (cs : List Char) : HasLines cs (lines cs) := by
  by_cases free : '\n' ∉ cs
  · rw [lines_of_free free]
    by_cases empty : cs = []
    · subst empty
      exact .empty
    · rw [List.filter_cons_of_pos (by simpa using empty), List.filter_nil]
      exact .unended empty free
  · obtain ⟨line, rest, split, free⟩ := List.eq_append_cons_of_mem (not_not.mp free)
    have behind := hasLines_lines rest
    rw [split, lines_append_feed free, dropReturn]
    split_ifs with ended
    · obtain ⟨line, rfl⟩ := List.getLast?_eq_some_iff.mp ended
      rw [List.dropLast_concat, List.append_assoc]
      exact .returnFeed (fun mem => free (List.mem_append_left _ mem)) behind
    · exact .feed free ended behind
termination_by cs.length
decreasing_by simp [split]; omega

/-- The lines that are read are the lines that the text has. -/
theorem hasLines_iff {others : List (List Char)} : HasLines cs others ↔ others = lines cs := by
  refine ⟨fun has => ?_, fun same => same ▸ hasLines_lines cs⟩
  induction has with
  | empty => rfl
  | unended visible free =>
    rw [lines_of_free free, List.filter_cons_of_pos (by simpa using visible), List.filter_nil]
  | feed free noReturn _ ih => rw [lines_append_feed free, dropReturn, if_neg noReturn, ih]
  | @returnFeed line rest _ free _ ih =>
    have free : '\n' ∉ line ++ ['\r'] := by simpa using free
    have ended : line ++ '\r' :: '\n' :: rest = (line ++ ['\r']) ++ '\n' :: rest := by simp
    rw [ended, lines_append_feed free, dropReturn_append_return, ih]

end HasLines

end Devirt.Text
