import Devirt.Text.CaseTable

/-!
# Lowercase text

The full lowercase mapping of Unicode. It is nearly a map on characters: U+0130 becomes two
characters, and a capital sigma has two forms. It becomes the final form at the end of a
word, that is if a cased character stands before it and none behind it, not counting
characters that case ignores, and the ordinary form elsewhere. So the lowercase form of a text
can depend on what surrounds it.
-/

namespace Devirt.Text

/-- Whether a character is a letter with case. -/
def isCased (c : Char) : Bool := casedRanges.contains c.toNat

/-- Whether a character is skipped when the neighbours of a sigma are looked up. -/
def isCaseIgnorable (c : Char) : Bool := caseIgnorableRanges.contains c.toNat

/-- The lowercase form of a code point by the table; the code point itself if it has none. -/
def lowercaseCode (n : Nat) : List (Nat × Nat × Nat × Nat) → Nat
  | [] => n
  | (first, last, step, target) :: rest =>
    if first ≤ n ∧ n ≤ last ∧ (n - first) % step = 0 then target + (n - first)
    else lowercaseCode n rest

/-- The lowercase form of a character on its own. -/
def lowercaseChar (c : Char) : List Char :=
  if c.toNat = 0x130 then ['i', Char.ofNat 0x307]
  else [Char.ofNat (lowercaseCode c.toNat lowercaseRuns)]

/-- Whether the nearest character that case does not ignore is cased. -/
def nearestIsCased (cs : List Char) : Bool :=
  (cs.find? (!isCaseIgnorable ·)).any isCased

/-- The lowercase form of a text behind the characters `before`, which are nearest first. -/
def lowercaseAfter (before : List Char) : List Char → List Char
  | [] => []
  | c :: cs =>
    let form :=
      if c = 'Σ' then [if nearestIsCased before && !nearestIsCased cs then 'ς' else 'σ']
      else lowercaseChar c
    form ++ lowercaseAfter (c :: before) cs

/-- The lowercase form of a text. -/
def lowercase (cs : List Char) : List Char := lowercaseAfter [] cs

/-- The lowercase form of a string. -/
def lowercased (s : String) : String := String.ofList (lowercase s.toList)

/-- A text without a capital sigma is lowercased character by character. -/
theorem lowercaseAfter_eq_flatMap {before cs : List Char} (h : 'Σ' ∉ cs) :
    lowercaseAfter before cs = cs.flatMap lowercaseChar := by
  induction cs generalizing before with
  | nil => rfl
  | cons c cs ih =>
    have first : c ≠ 'Σ' := fun e => h (e ▸ List.mem_cons_self)
    have rest : lowercaseAfter (c :: before) cs = cs.flatMap lowercaseChar :=
      ih fun m => h (List.mem_cons_of_mem _ m)
    simp [lowercaseAfter, first, rest]

end Devirt.Text
