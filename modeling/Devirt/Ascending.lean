/-!
# Lists kept in ascending order of a key

A list strictly ascending by a key serves as a small map: no key occurs twice and reading
it from left to right is reading it in order. Insertion keeps that order. When the key is
already there, the two entries are combined, the older one first.

`sortOn` is for lists where a key may repeat. It is stable, so entries with one key keep
their order.
-/

namespace Devirt

variable {α κ : Type}

/-- The list with an entry more, put in its place by its key. -/
def insertAscending [LT κ] [DecidableLT κ] (key : α → κ) (combine : α → α → α) (x : α) :
    List α → List α
  | [] => [x]
  | y :: ys =>
    if key x < key y then x :: y :: ys
    else if key y < key x then y :: insertAscending key combine x ys
    else combine y x :: ys

/-- The list in ascending order of the key. Entries with one key keep their order. -/
def sortOn [LE κ] [DecidableLE κ] (key : α → κ) (xs : List α) : List α :=
  xs.mergeSort fun a b => decide (key a ≤ key b)

/-- The strings in ascending order, each once. -/
def distinctAscending (names : List String) : List String :=
  names.foldr (insertAscending id fun older _ => older) []

/-- After an insertion every key is an old one or the new one. -/
theorem key_of_mem_insertAscending [LT κ] [DecidableLT κ] {key : α → κ} {combine : α → α → α}
    (keep : ∀ a b, key (combine a b) = key a) {x z : α} {xs : List α}
    (h : z ∈ insertAscending key combine x xs) : key z = key x ∨ ∃ y ∈ xs, key z = key y := by
  induction xs with
  | nil => simp_all [insertAscending]
  | cons y ys ih =>
    simp only [insertAscending] at h
    split at h
    · rcases List.mem_cons.1 h with rfl | h
      · exact .inl rfl
      · exact .inr ⟨z, h, rfl⟩
    · split at h
      · rcases List.mem_cons.1 h with rfl | h
        · exact .inr ⟨z, List.mem_cons_self, rfl⟩
        · rcases ih h with e | ⟨w, hw, e⟩
          · exact .inl e
          · exact .inr ⟨w, List.mem_cons_of_mem _ hw, e⟩
      · rcases List.mem_cons.1 h with rfl | h
        · exact .inr ⟨y, List.mem_cons_self, keep _ _⟩
        · exact .inr ⟨z, List.mem_cons_of_mem _ h, rfl⟩

/-- Insertion keeps a list strictly ascending. -/
theorem pairwise_insertAscending [LT κ] [DecidableLT κ] {key : α → κ} {combine : α → α → α}
    (trans : ∀ a b c : κ, a < b → b < c → a < c) (keep : ∀ a b, key (combine a b) = key a)
    {x : α} {xs : List α} (h : xs.Pairwise (key · < key ·)) :
    (insertAscending key combine x xs).Pairwise (key · < key ·) := by
  induction xs with
  | nil => simp [insertAscending]
  | cons y ys ih =>
    have above : ∀ z ∈ ys, key y < key z := (List.pairwise_cons.1 h).1
    simp only [insertAscending]
    split
    · rename_i lt
      refine List.pairwise_cons.2 ⟨fun z hz => ?_, h⟩
      rcases List.mem_cons.1 hz with rfl | hz
      · exact lt
      · exact trans _ _ _ lt (above z hz)
    · split
      · rename_i lt
        refine List.pairwise_cons.2 ⟨fun z hz => ?_, ih (List.Pairwise.of_cons h)⟩
        rcases key_of_mem_insertAscending keep hz with e | ⟨w, hw, e⟩
        · exact e ▸ lt
        · exact e ▸ above w hw
      · refine List.pairwise_cons.2 ⟨fun z hz => ?_, List.Pairwise.of_cons h⟩
        simpa [keep] using above z hz

/-- Sorting loses and repeats nothing. -/
theorem sortOn_perm [LE κ] [DecidableLE κ] (key : α → κ) (xs : List α) :
    (sortOn key xs).Perm xs := List.mergeSort_perm _ _

end Devirt
