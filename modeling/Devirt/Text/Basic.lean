/-!
# Trimming and searching texts

Blank means the Unicode property White_Space: the ASCII blanks, the separators and a few
controls, but neither the zero-width space U+200B nor the byte order mark U+FEFF. Trimming
removes blanks at the ends and nothing inside, so a trimmed text stays as it is when it is
trimmed again. Searching asks whether one text occurs inside another, character for character.

Texts are lists of characters here; `trimmed`, `trimmedEnd` and `contains` are the same operations
on a `String`.
-/

namespace Devirt.Text

/-- Whether a character has the Unicode property White_Space. -/
def isBlank (c : Char) : Bool :=
  let n := c.toNat
  (0x9 ≤ n && n ≤ 0xD) || n == 0x20 || n == 0x85 || n == 0xA0 || n == 0x1680 ||
    (0x2000 ≤ n && n ≤ 0x200A) || n == 0x2028 || n == 0x2029 || n == 0x202F ||
    n == 0x205F || n == 0x3000

/-- The text without the blanks in front. -/
def trimStart (cs : List Char) : List Char := cs.dropWhile isBlank

/-- The text without the blanks behind. -/
def trimEnd (cs : List Char) : List Char := (cs.reverse.dropWhile isBlank).reverse

/-- The text without the blanks at either end. -/
def trim (cs : List Char) : List Char := trimEnd (trimStart cs)

/-- The string without the blanks at either end. -/
def trimmed (s : String) : String := String.ofList (trim s.toList)

/-- The string without the blanks behind. -/
def trimmedEnd (s : String) : String := String.ofList (trimEnd s.toList)

/-- A first character that is not blank stays first. -/
theorem trimStart_cons_of_not_blank {c : Char} (h : isBlank c = false) (cs : List Char) :
    trimStart (c :: cs) = c :: cs := by
  simp [trimStart, h]

/-- What trimming leaves in front is not blank. -/
theorem isBlank_head?_trimStart (cs : List Char) : ∀ c ∈ (trimStart cs).head?, isBlank c = false := by
  induction cs with
  | nil => simp [trimStart]
  | cons c cs ih =>
    cases h : isBlank c with
    | true => simpa [trimStart, h] using ih
    | false => simp [trimStart, h]

/-- A text that starts with no blank loses nothing in front. -/
theorem trimStart_eq_self {cs : List Char} (h : ∀ c ∈ cs.head?, isBlank c = false) :
    trimStart cs = cs := by
  cases cs with
  | nil => rfl
  | cons c cs => exact trimStart_cons_of_not_blank (h c rfl) cs

/-- Trimming the end keeps the first character of a text that does not start with a blank. -/
theorem trimStart_trimEnd_of_head {cs : List Char} (h : ∀ c ∈ cs.head?, isBlank c = false) :
    trimStart (trimEnd cs) = trimEnd cs := by
  refine trimStart_eq_self fun c hc => h c ?_
  have split : trimEnd cs ++ (cs.reverse.takeWhile isBlank).reverse = cs := by
    rw [trimEnd, ← List.reverse_append, List.takeWhile_append_dropWhile, List.reverse_reverse]
  rw [← split]
  cases hcs : trimEnd cs with
  | nil => simp [hcs] at hc
  | cons d ds => simpa [hcs] using hc

/-- Trimming the end twice is trimming it once. -/
theorem trimEnd_trimEnd (cs : List Char) : trimEnd (trimEnd cs) = trimEnd cs := by
  have once := trimStart_eq_self (isBlank_head?_trimStart cs.reverse)
  simpa [trimEnd, trimStart] using once

/-- A trimmed text is its own trimmed form. -/
theorem trim_trim (cs : List Char) : trim (trim cs) = trim cs := by
  rw [trim, trim, trimStart_trimEnd_of_head (isBlank_head?_trimStart cs), trimEnd_trimEnd]

/-- A trimmed string is its own trimmed form. -/
theorem trimmed_trimmed (s : String) : trimmed (trimmed s) = trimmed s := by
  simp [trimmed, trim_trim]

/-- Whether the needle occurs as consecutive characters. The empty needle occurs everywhere. -/
def occursIn (needle : List Char) : List Char → Bool
  | [] => needle.isEmpty
  | c :: cs => needle.isPrefixOf (c :: cs) || occursIn needle cs

/-- Whether one string occurs inside another. -/
def contains (haystack needle : String) : Bool := occursIn needle.toList haystack.toList

/-- Occurring means that the haystack is the needle with a text in front and a text behind. -/
theorem occursIn_iff {needle haystack : List Char} :
    occursIn needle haystack = true ↔ needle <:+: haystack := by
  induction haystack with
  | nil => simp [occursIn, List.isEmpty_iff, List.infix_nil]
  | cons c cs ih => simp [occursIn, ih, List.infix_cons_iff]

end Devirt.Text
