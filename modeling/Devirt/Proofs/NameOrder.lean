import Mathlib.Data.List.Basic

/-!
# Names in the order of their bytes

Strings are compared character by character. That is the order of their bytes in UTF-8: of two
characters the greater one has the greater first byte, or as many bytes and the greater one where
they first differ, so whatever follows the two characters does not matter.
-/

namespace Devirt.Text

/-- The bytes of a text in UTF-8. -/
def utf8 (text : String) : List UInt8 := text.toUTF8.data.toList

/-- The bytes of a text are those of its characters, one after the other. -/
theorem utf8_eq_flatMap (text : String) :
    utf8 text = text.toList.flatMap String.utf8EncodeChar := by
  obtain ⟨cs, rfl⟩ : ∃ cs, text = String.ofList cs := ⟨text.toList, String.ofList_toList.symm⟩
  rw [utf8, String.toUTF8_eq_toByteArray, String.toByteArray_ofList, List.utf8Encode,
    List.toList_data_toByteArray, String.toList_ofList]

/-- Bytes are smaller when the first of them is no greater and, where it is the same, the rest
are smaller. -/
theorem cons_byte_lt {m n : Nat} {xs ys : List UInt8} (le : m ≤ n) (isByte : n < 256)
    (rest : m = n → xs < ys) : UInt8.ofNat m :: xs < UInt8.ofNat n :: ys := by
  rcases Nat.lt_or_eq_of_le le with lt | same
  · refine List.cons_lt_cons_iff.mpr (.inl (UInt8.lt_iff_toNat_lt.mpr ?_))
    rwa [UInt8.toNat_ofNat_of_lt' (Nat.lt_trans lt isByte), UInt8.toNat_ofNat_of_lt' isByte]
  · exact List.cons_lt_cons_iff.mpr (.inr ⟨congrArg UInt8.ofNat same, rest same⟩)

/-- The bytes of a smaller character are smaller, whatever follows the characters. -/
theorem utf8EncodeChar_append_lt {c d : Char} (smaller : c < d) (xs ys : List UInt8) :
    String.utf8EncodeChar c ++ xs < String.utf8EncodeChar d ++ ys := by
  have lt : c.val.toNat < d.val.toNat := smaller
  have bound : d.val.toNat < 0x110000 := by
    rcases d.valid with low | ⟨_, high⟩
    · exact Nat.lt_trans low (by decide)
    · exact high
  simp only [String.utf8EncodeChar]
  generalize c.val.toNat = m at *
  generalize d.val.toNat = n at *
  -- By the number of bytes of the smaller character. A greater number of bytes shows in the
  -- first byte; with as many bytes the first difference decides.
  split
  · repeat' split
    all_goals exact cons_byte_lt (by omega) (by omega) fun first => absurd first (by omega)
  rw [if_neg (by omega : ¬ n ≤ 0x7f)]
  split
  · split
    · exact cons_byte_lt (by omega) (by omega) fun first =>
        cons_byte_lt (by omega) (by omega) fun second => absurd lt (by omega)
    · split
      all_goals exact cons_byte_lt (by omega) (by omega) fun first => absurd first (by omega)
  rw [if_neg (by omega : ¬ n ≤ 0x7ff)]
  split
  · split
    · exact cons_byte_lt (by omega) (by omega) fun first =>
        cons_byte_lt (by omega) (by omega) fun second =>
          cons_byte_lt (by omega) (by omega) fun third => absurd lt (by omega)
    · exact cons_byte_lt (by omega) (by omega) fun first => absurd first (by omega)
  rw [if_neg (by omega : ¬ n ≤ 0xffff)]
  exact cons_byte_lt (by omega) (by omega) fun first =>
    cons_byte_lt (by omega) (by omega) fun second =>
      cons_byte_lt (by omega) (by omega) fun third =>
        cons_byte_lt (by omega) (by omega) fun fourth => absurd lt (by omega)

/-- A smaller list of characters has smaller bytes. -/
theorem flatMap_utf8EncodeChar_lt {cs ds : List Char} (smaller : cs < ds) :
    cs.flatMap String.utf8EncodeChar < ds.flatMap String.utf8EncodeChar := by
  induction cs generalizing ds with
  | nil =>
    cases ds with
    | nil => exact absurd smaller (List.lt_irrefl [])
    | cons d ds =>
      obtain ⟨byte, bytes, spelled⟩ := List.exists_cons_of_ne_nil
        (List.ne_nil_of_length_pos (l := String.utf8EncodeChar d)
          (String.length_utf8EncodeChar d ▸ d.utf8Size_pos))
      rw [List.flatMap_nil, List.flatMap_cons, spelled]
      exact List.nil_lt_cons byte _
  | cons c cs ih =>
    cases ds with
    | nil => exact absurd smaller (List.not_lt_nil _)
    | cons d ds =>
      rw [List.flatMap_cons, List.flatMap_cons]
      rcases List.cons_lt_cons_iff.mp smaller with lt | ⟨rfl, rest⟩
      · exact utf8EncodeChar_append_lt lt _ _
      · exact List.append_left_lt (ih rest)

/-- Strings are in the order of their bytes. -/
theorem utf8_lt_iff {a b : String} : utf8 a < utf8 b ↔ a < b := by
  have keeps {a b : String} (lt : a < b) : utf8 a < utf8 b := by
    rw [utf8_eq_flatMap, utf8_eq_flatMap]
    exact flatMap_utf8EncodeChar_lt lt
  refine ⟨fun lt => ?_, keeps⟩
  by_cases same : a = b
  · exact absurd (same ▸ lt) (List.lt_irrefl _)
  · rcases Std.le_total (a := a) (b := b) with le | le
    · exact Std.lt_iff_le_and_ne.mpr ⟨le, same⟩
    · exact absurd (keeps (Std.lt_iff_le_and_ne.mpr ⟨le, Ne.symm same⟩)) (List.lt_asymm lt)

end Devirt.Text
