/-!
# Stretches of a list and lines of a text

A list with marked places is cut at every one of them, and the places themselves are left out.
Stretches may be empty, and there is one more of them than there are marked places.

Lines end at line feeds. `pieces` cuts at every line feed and nothing else, so joining the
pieces gives the text back. `lines` is the reading of a text file: the empty piece behind a
final line feed is no line, and one carriage return directly in front of a line feed belongs
to the line end. A last line without a line feed keeps its carriage return.
-/

namespace Devirt

section

variable {α : Type}

/-- The lists with an entry more in front of the first. -/
def consFirst (a : α) : List (List α) → List (List α)
  | [] => [[a]]
  | first :: rest => (a :: first) :: rest

/-- The stretches between the missing entries. -/
def stretches : List (Option α) → List (List α)
  | [] => [[]]
  | none :: rest => [] :: stretches rest
  | some a :: rest => consFirst a (stretches rest)

/-- Putting an entry in front leaves at least one list. -/
theorem consFirst_ne_nil (a : α) (lists : List (List α)) : consFirst a lists ≠ [] := by
  cases lists <;> simp [consFirst]

end

namespace Text

/-- The stretches between line feeds, in order. There is always at least one. -/
def pieces : List Char → List (List Char)
  | [] => [[]]
  | c :: cs => if c = '\n' then [] :: pieces cs else consFirst c (pieces cs)

/-- The texts with a line feed between neighbours. -/
def joinLines : List (List Char) → List Char
  | [] => []
  | [piece] => piece
  | piece :: rest => piece ++ '\n' :: joinLines rest

/-- A line without the carriage return of its line end. -/
def dropReturn (line : List Char) : List Char :=
  if line.getLast? = some '\r' then line.dropLast else line

/-- The lines of a text: every terminated piece less its line end, then what follows the last
line feed unless it is empty. -/
def lines (cs : List Char) : List (List Char) :=
  let all := pieces cs
  all.dropLast.map dropReturn ++ all.getLast?.toList.filter (· ≠ [])

/-- Every text has a piece. -/
theorem pieces_ne_nil (cs : List Char) : pieces cs ≠ [] := by
  cases cs with
  | nil => simp [pieces]
  | cons c cs =>
    simp only [pieces]
    split
    · simp
    · exact consFirst_ne_nil c _

/-- Joining the pieces gives the text back. -/
theorem joinLines_pieces (cs : List Char) : joinLines (pieces cs) = cs := by
  induction cs with
  | nil => rfl
  | cons c cs ih =>
    simp only [pieces]
    split
    · rename_i h
      cases hp : pieces cs with
      | nil => exact absurd hp (pieces_ne_nil cs)
      | cons piece rest => simp [joinLines, ← hp, ih, h]
    · cases hp : pieces cs with
      | nil => exact absurd hp (pieces_ne_nil cs)
      | cons piece rest =>
        rw [← ih, hp]
        cases rest <;> simp [consFirst, joinLines]

/-- No piece holds a line feed. -/
theorem not_mem_of_mem_pieces {cs piece : List Char} (h : piece ∈ pieces cs) : '\n' ∉ piece := by
  induction cs generalizing piece with
  | nil => simp_all [pieces]
  | cons c cs ih =>
    simp only [pieces] at h
    split at h
    · rcases List.mem_cons.1 h with rfl | h
      · simp
      · exact ih h
    · rename_i hc
      cases hp : pieces cs with
      | nil => exact absurd hp (pieces_ne_nil cs)
      | cons first rest =>
        rw [hp] at h ih
        simp only [consFirst] at h
        rcases List.mem_cons.1 h with rfl | h
        · simpa [Ne.symm hc] using ih List.mem_cons_self
        · exact ih (List.mem_cons_of_mem _ h)

end Text

end Devirt
