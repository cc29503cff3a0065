import Mathlib.Data.List.Nodup
import Devirt.Ascending

/-!
# Ascending lists as maps

A list that is strictly ascending by a key is determined by what is found under each key.
Insertion changes what is found under the new key and nothing else, so a list built by
insertions can be read off the entries put in: under each key, the entries of that key are
combined in the order of the insertions.

Sorting by a key promises that no key comes before a smaller one. It is stable: entries that tie
keep the order they came in, and a part of a list, sorted, is a part of the sorted list.

That one entry comes before another is said by the list of the two being a sublist. Where every
entry stands in a relation to all behind it, the relation tells which of two entries comes first.
-/

namespace Devirt

variable {α κ : Type} [LE κ] [LT κ] [DecidableLT κ] [DecidableEq κ] [Std.IsLinearOrder κ]
  [Std.LawfulOrderLT κ]

/-- Under the key of a new entry stands that entry, combined with the older one if there is one. -/
theorem find?_insertAscending_self {key : α → κ} {combine : α → α → α}
    (keep : ∀ a b, key (combine a b) = key a) (x : α) {xs : List α}
    (ascending : xs.Pairwise (key · < key ·)) :
    (insertAscending key combine x xs).find? (key · == key x) =
      some ((xs.find? (key · == key x)).elim x (combine · x)) := by
  induction xs with
  | nil => simp [insertAscending]
  | cons y ys ih =>
    obtain ⟨above, rest⟩ := List.pairwise_cons.mp ascending
    simp only [insertAscending]
    split
    · rename_i lt
      have absent : (y :: ys).find? (key · == key x) = none := by
        rw [List.find?_eq_none]
        intro z hz same
        have same : key z = key x := by simpa using same
        rcases List.mem_cons.mp hz with rfl | hz
        · exact Std.lt_irrefl (same ▸ lt)
        · exact Std.lt_irrefl (same ▸ Std.lt_trans lt (above z hz))
      simp [absent]
    · split
      · rename_i _ lt
        have differ : key y ≠ key x := fun same => Std.lt_irrefl (same ▸ lt)
        simp [differ, ih rest]
      · rename_i notLt notGt
        have same : key y = key x :=
          Std.le_antisymm (Std.not_lt.mp notLt) (Std.not_lt.mp notGt)
        simp [keep, same]

/-- Under every other key an insertion changes nothing. -/
theorem find?_insertAscending_of_ne {key : α → κ} {combine : α → α → α}
    (keep : ∀ a b, key (combine a b) = key a) {x : α} {k : κ} (differ : key x ≠ k) (xs : List α) :
    (insertAscending key combine x xs).find? (key · == k) = xs.find? (key · == k) := by
  induction xs with
  | nil => simp [insertAscending, differ]
  | cons y ys ih =>
    simp only [insertAscending]
    split
    · simp [differ]
    · split
      · simp [List.find?_cons, ih]
      · rename_i notLt notGt
        have same : key y = key x :=
          Std.le_antisymm (Std.not_lt.mp notLt) (Std.not_lt.mp notGt)
        simp [keep, same, differ]

omit [DecidableEq κ] in
/-- An entry with a new key is one entry more. -/
theorem insertAscending_perm_of_fresh {key : α → κ} {combine : α → α → α} {x : α} {xs : List α}
    (fresh : ∀ y ∈ xs, key y ≠ key x) : (insertAscending key combine x xs).Perm (x :: xs) := by
  induction xs with
  | nil => exact List.Perm.refl _
  | cons y ys ih =>
    obtain ⟨differ, others⟩ := List.forall_mem_cons.mp fresh
    simp only [insertAscending]
    split
    · exact List.Perm.refl _
    · split
      · exact ((ih others).cons y).trans (List.Perm.swap x y ys)
      · rename_i notLt notGt
        exact absurd (Std.le_antisymm (Std.not_lt.mp notLt) (Std.not_lt.mp notGt)) differ

/-- Entries inserted one after the other. -/
def insertAll (key : α → κ) (combine : α → α → α) (entries start : List α) : List α :=
  entries.foldl (fun built x => insertAscending key combine x built) start

omit [DecidableEq κ] in
/-- Any number of insertions keep a list strictly ascending. -/
theorem pairwise_insertAll (key : α → κ) {combine : α → α → α}
    (keep : ∀ a b, key (combine a b) = key a) (entries : List α) {start : List α}
    (ascending : start.Pairwise (key · < key ·)) :
    (insertAll key combine entries start).Pairwise (key · < key ·) := by
  induction entries generalizing start with
  | nil => exact ascending
  | cons x rest ih =>
    exact ih (pairwise_insertAscending (fun _ _ _ => Std.lt_trans) keep ascending)

/-- After insertions, the entries of a key are combined under it in the order they came. -/
theorem find?_insertAll {key : α → κ} {combine : α → α → α}
    (keep : ∀ a b, key (combine a b) = key a) (entries : List α) {start : List α}
    (ascending : start.Pairwise (key · < key ·)) (k : κ) :
    (insertAll key combine entries start).find? (key · == k) =
      (entries.filter (key · == k)).foldl (fun found x => some (found.elim x (combine · x)))
        (start.find? (key · == k)) := by
  induction entries generalizing start with
  | nil => rfl
  | cons x rest ih =>
    have step := ih (pairwise_insertAscending (fun _ _ _ => Std.lt_trans) keep ascending (x := x))
    by_cases same : key x = k
    · subst same
      rw [find?_insertAscending_self keep x ascending] at step
      simpa [insertAll] using step
    · rw [find?_insertAscending_of_ne keep same] at step
      simpa [insertAll, same] using step

omit [LE κ] [LT κ] [DecidableLT κ] [Std.IsLinearOrder κ] [Std.LawfulOrderLT κ] in
/-- Where no key occurs twice, the entry with a key is the one that is found under it. -/
theorem find?_eq_some_iff_mem_of_nodup {key : α → κ} {xs : List α} (distinct : (xs.map key).Nodup)
    {k : κ} {x : α} : xs.find? (key · == k) = some x ↔ x ∈ xs ∧ key x = k := by
  apply Iff.intro
  · intro found
    exact ⟨List.mem_of_find?_eq_some found, by simpa using List.find?_some found⟩
  · intro parts
    obtain ⟨mem, same⟩ := parts
    cases found : xs.find? (key · == k) with
    | none => exact absurd same (by simpa using List.find?_eq_none.mp found x mem)
    | some other =>
      have equal : key other = k := by simpa using List.find?_some found
      rw [List.inj_on_of_nodup_map distinct (List.mem_of_find?_eq_some found) mem
        (equal.trans same.symm)]

omit [LE κ] [LT κ] [DecidableLT κ] [Std.IsLinearOrder κ] [Std.LawfulOrderLT κ] in
/-- In whatever order they come, entries of which no key occurs twice are found under their keys. -/
theorem find?_eq_of_perm {key : α → κ} {xs ys : List α} (perm : xs.Perm ys)
    (distinct : (xs.map key).Nodup) (k : κ) : xs.find? (key · == k) = ys.find? (key · == k) := by
  have alsoDistinct : (ys.map key).Nodup := (perm.map key).nodup_iff.mp distinct
  refine Option.ext fun x => ?_
  rw [find?_eq_some_iff_mem_of_nodup distinct, find?_eq_some_iff_mem_of_nodup alsoDistinct,
    perm.mem_iff]

omit [DecidableLT κ] [DecidableEq κ] [Std.IsLinearOrder κ] in
/-- In a strictly ascending list no key occurs twice. -/
theorem nodup_map_of_ascending {key : α → κ} {xs : List α}
    (ascending : xs.Pairwise (key · < key ·)) : (xs.map key).Nodup :=
  List.pairwise_map.mpr (ascending.imp fun lt => Std.ne_of_lt lt)

omit [DecidableLT κ] [DecidableEq κ] in
/-- Strictly ascending lists of the same entries are the same. -/
theorem eq_of_ascending_of_mem_iff {key : α → κ} {xs ys : List α}
    (ascending : xs.Pairwise (key · < key ·)) (alsoAscending : ys.Pairwise (key · < key ·))
    (same : ∀ x, x ∈ xs ↔ x ∈ ys) : xs = ys := by
  have perm : xs.Perm ys :=
    (List.perm_ext_iff_of_nodup (nodup_map_of_ascending ascending).of_map
      (nodup_map_of_ascending alsoAscending).of_map).mpr same
  refine perm.eq_of_pairwise (fun a b _ _ before behind => ?_) ascending alsoAscending
  exact absurd (Std.lt_trans before behind) Std.lt_irrefl

omit [DecidableLT κ] [Std.IsLinearOrder κ] in
/-- In a strictly ascending list the entry with a key is the one that is found under it. -/
theorem find?_eq_some_iff_mem {key : α → κ} {xs : List α} (ascending : xs.Pairwise (key · < key ·))
    {k : κ} {x : α} : xs.find? (key · == k) = some x ↔ x ∈ xs ∧ key x = k :=
  find?_eq_some_iff_mem_of_nodup (nodup_map_of_ascending ascending)

omit [DecidableLT κ] [Std.IsLinearOrder κ] in
/-- In a strictly ascending list the entries with a key are the one that is found under it. -/
theorem filter_eq_toList_find? {key : α → κ} {xs : List α} (ascending : xs.Pairwise (key · < key ·))
    (k : κ) : xs.filter (key · == k) = (xs.find? (key · == k)).toList := by
  induction xs with
  | nil => rfl
  | cons y ys ih =>
    obtain ⟨above, rest⟩ := List.pairwise_cons.mp ascending
    by_cases same : key y = k
    · have others : ys.filter (key · == k) = [] := by
        rw [List.filter_eq_nil_iff]
        intro z hz equal
        exact Std.lt_irrefl ((show key z = key y by rw [same]; simpa using equal) ▸ above z hz)
      simp [same, others]
    · simp [same, ih rest]

/-- When the older entry is kept, the first entry of a key is the one found under it. -/
theorem find?_insertAll_first (key : α → κ) (entries : List α) (k : κ) :
    (insertAll key (fun older _ => older) entries []).find? (key · == k) =
      entries.find? (key · == k) := by
  have kept (found : List α) (first : α) :
      found.foldl (fun found x => some (found.elim x fun older => older)) (some first) =
        some first := by
    induction found with
    | nil => rfl
    | cons x rest ih => simpa using ih
  rw [find?_insertAll (fun _ _ => rfl) entries List.Pairwise.nil,
    List.find?_nil, ← List.head?_filter]
  cases entries.filter (key · == k) with
  | nil => rfl
  | cons first rest => exact kept rest first

/-- The distinct names ascend strictly. -/
theorem pairwise_distinctAscending (names : List String) :
    (distinctAscending names).Pairwise (· < ·) := by
  rw [distinctAscending, List.foldr_eq_foldl_reverse]
  exact pairwise_insertAll id (fun _ _ => rfl) names.reverse List.Pairwise.nil

/-- The distinct names are the names. -/
theorem mem_distinctAscending {names : List String} {name : String} :
    name ∈ distinctAscending names ↔ name ∈ names := by
  have found := find?_insertAll_first id names.reverse name
  have same : distinctAscending names = insertAll id (fun older _ => older) names.reverse [] := by
    rw [distinctAscending, List.foldr_eq_foldl_reverse, insertAll]
  rw [← same] at found
  have occurs (list : List String) : (list.find? (id · == name)).isSome ↔ name ∈ list := by
    simp
  rw [← occurs, found, occurs, List.mem_reverse]

omit [LT κ] [DecidableLT κ] [DecidableEq κ] [Std.LawfulOrderLT κ] in
/-- Sorting by a key puts no key before a smaller one. -/
theorem pairwise_sortOn [DecidableLE κ] (key : α → κ) (xs : List α) :
    (sortOn key xs).Pairwise (key · ≤ key ·) := by
  have sorted := @List.pairwise_mergeSort α (fun a b => decide (key a ≤ key b))
    (fun a b c hab hbc => by simpa using Std.le_trans (by simpa using hab) (by simpa using hbc))
    (fun a b => by simpa using Std.le_total (a := key a) (b := key b)) xs
  simpa only [sortOn, decide_eq_true_eq] using sorted

omit [DecidableLT κ] [DecidableEq κ] in
/-- Sorting by a key that does not repeat puts every key in front of the greater ones. -/
theorem pairwise_lt_sortOn [DecidableLE κ] {key : α → κ} {xs : List α}
    (distinct : (xs.map key).Nodup) : (sortOn key xs).Pairwise (key · < key ·) := by
  have apart : (sortOn key xs).Pairwise (key · ≠ key ·) :=
    List.pairwise_map.mp (((sortOn_perm key xs).map key).nodup_iff.mpr distinct)
  exact (pairwise_sortOn key xs).imp₂ (fun _ _ le ne => Std.lt_iff_le_and_ne.mpr ⟨le, ne⟩) apart

omit [LT κ] [DecidableLT κ] [Std.LawfulOrderLT κ] in
/-- Ascending lists in which the entries of each key are the same, in the same order, are the
same. -/
theorem eq_of_pairwise_of_filter_eq {key : α → κ} {xs ys : List α}
    (ascending : xs.Pairwise (key · ≤ key ·)) (alsoAscending : ys.Pairwise (key · ≤ key ·))
    (same : ∀ k, xs.filter (key · == k) = ys.filter (key · == k)) : xs = ys := by
  induction xs generalizing ys with
  | nil =>
    cases ys with
    | nil => rfl
    | cons y ys => simpa using same (key y)
  | cons x xs ih =>
    cases ys with
    | nil => simpa using same (key x)
    | cons y ys =>
      obtain ⟨least, rest⟩ := List.pairwise_cons.mp ascending
      obtain ⟨alsoLeast, alsoRest⟩ := List.pairwise_cons.mp alsoAscending
      -- Each head occurs in the other list, so neither key is smaller.
      have tied : key x = key y := by
        have xMem : x ∈ (y :: ys).filter (key · == key x) := same (key x) ▸ by simp
        have yMem : y ∈ (x :: xs).filter (key · == key y) := same (key y) ▸ by simp
        apply Std.le_antisymm
        · rcases List.mem_cons.mp (List.mem_of_mem_filter yMem) with rfl | later
          · exact Std.le_refl _
          · exact least y later
        · rcases List.mem_cons.mp (List.mem_of_mem_filter xMem) with rfl | later
          · exact Std.le_refl _
          · exact alsoLeast x later
      have heads := same (key x)
      simp only [List.filter_cons, tied, beq_self_eq_true, if_true] at heads
      obtain ⟨rfl, _⟩ := List.cons.inj heads
      refine congrArg (List.cons x) (ih rest alsoRest fun k => ?_)
      have tails := same k
      simp only [List.filter_cons] at tails
      split_ifs at tails with atKey
      · exact (List.cons.inj tails).2
      · exact tails

section Stable

variable {precedes : α → α → Bool}
  (trans : ∀ a b c, precedes a b = true → precedes b c = true → precedes a c = true)
  (total : ∀ a b, (precedes a b || precedes b a) = true)
include trans total

/-- Sorting keeps entries that tie in the order they came in. -/
theorem filter_mergeSort {part : α → Bool}
    (ties : ∀ a b, part a = true → part b = true → precedes a b = true) (xs : List α) :
    (xs.mergeSort precedes).filter part = xs.filter part := by
  have tied : (xs.filter part).Pairwise (precedes · ·) := by
    refine List.pairwise_of_forall_mem_list fun a inA b inB => ?_
    exact ties a b (List.of_mem_filter inA) (List.of_mem_filter inB)
  have kept := (List.sublist_mergeSort trans total tied List.filter_sublist).filter part
  simp only [List.filter_filter, Bool.and_self] at kept
  exact (kept.eq_of_length ((List.mergeSort_perm xs precedes).filter part).length_eq.symm).symm

/-- An entry more stands, after sorting, right behind those that it may not precede. -/
theorem mergeSort_cons_eq (x : α) (xs : List α) :
    (x :: xs).mergeSort precedes = (xs.mergeSort precedes).filter (!precedes x ·) ++
        x :: (xs.mergeSort precedes).filter (precedes x ·) ∧
      xs.mergeSort precedes = (xs.mergeSort precedes).filter (!precedes x ·) ++
        (xs.mergeSort precedes).filter (precedes x ·) := by
  obtain ⟨before, after, whole, rest, behind⟩ := List.mergeSort_cons trans total x xs
  have sorted := List.pairwise_mergeSort trans total (x :: xs)
  rw [whole, List.pairwise_append, List.pairwise_cons] at sorted
  obtain ⟨_, ⟨ahead, _⟩, _⟩ := sorted
  have smaller : ∀ y ∈ before, precedes x y = false := by simpa using behind
  have front : (before ++ after).filter (!precedes x ·) = before := by
    rw [List.filter_append, List.filter_eq_self.mpr (by simpa using smaller),
      List.filter_eq_nil_iff.mpr (by simpa using ahead), List.append_nil]
  have back : (before ++ after).filter (precedes x ·) = after := by
    rw [List.filter_append, List.filter_eq_nil_iff.mpr (by simpa using smaller),
      List.filter_eq_self.mpr ahead, List.nil_append]
  rw [whole, rest, front, back]
  exact ⟨rfl, rfl⟩

/-- Sorting a part of a list gives a part of the sorted list. -/
theorem sublist_mergeSort_mergeSort {xs ys : List α} (part : xs.Sublist ys) :
    (xs.mergeSort precedes).Sublist (ys.mergeSort precedes) := by
  induction part with
  | slnil => exact List.Sublist.refl _
  | @cons xs ys y _ ih =>
    obtain ⟨whole, rest⟩ := mergeSort_cons_eq trans total y ys
    rw [whole]
    rw [rest] at ih
    exact ih.trans ((List.sublist_cons_self y _).append_left _)
  | @cons_cons xs ys y _ ih =>
    rw [(mergeSort_cons_eq trans total y xs).1, (mergeSort_cons_eq trans total y ys).1]
    exact (ih.filter _).append ((ih.filter _).cons_cons y)

end Stable

omit [LT κ] [DecidableLT κ] [Std.LawfulOrderLT κ] in
/-- Sorting by a key keeps the entries of one key in the order they came in. -/
theorem filter_sortOn [DecidableLE κ] (key : α → κ) (xs : List α) (k : κ) :
    (sortOn key xs).filter (key · == k) = xs.filter (key · == k) := by
  apply filter_mergeSort
  · intro a b c hab hbc
    simpa using Std.le_trans (by simpa using hab) (by simpa using hbc)
  · intro a b
    simpa using Std.le_total (a := key a) (b := key b)
  · intro a b inA inB
    rw [beq_iff_eq.mp inA, beq_iff_eq.mp inB, decide_eq_true_eq]
    exact Std.le_refl k

section Pairs

omit [LE κ] [LT κ] [DecidableLT κ] [DecidableEq κ] [Std.IsLinearOrder κ] [Std.LawfulOrderLT κ]

variable {a b : α} {xs : List α}

/-- An entry comes before those behind it. -/
theorem pair_sublist_append_cons {before : List α} (mem : a ∈ before) (behind : List α) :
    [a, b].Sublist (before ++ b :: behind) :=
  (List.singleton_sublist.mpr mem).append ((List.nil_sublist behind).cons_cons b)

/-- Of two entries one comes before the other. -/
theorem pair_sublist_total (ha : a ∈ xs) (hb : b ∈ xs) (differ : a ≠ b) :
    [a, b].Sublist xs ∨ [b, a].Sublist xs := by
  obtain ⟨before, behind, rfl⟩ := List.append_of_mem ha
  rcases List.mem_append.mp hb with mem | mem
  · exact .inr (pair_sublist_append_cons mem behind)
  · have later : b ∈ behind := (List.mem_cons.mp mem).resolve_left differ.symm
    have pair : [a, b].Sublist (a :: behind) := (List.singleton_sublist.mpr later).cons_cons a
    exact .inl (pair.trans (List.sublist_append_right _ _))

/-- Where every entry stands in a relation to all behind it, and not both of two entries do to each
other, the relation tells which of them comes first. -/
theorem pair_sublist_iff {R : α → α → Prop} (ordered : xs.Pairwise R) (ha : a ∈ xs) (hb : b ∈ xs)
    (differ : a ≠ b) (oneWay : R a b → ¬ R b a) : [a, b].Sublist xs ↔ R a b := by
  have related {x y : α} (pair : [x, y].Sublist xs) : R x y :=
    List.pairwise_iff_forall_sublist.mp ordered pair
  refine ⟨related, fun holds => ?_⟩
  exact (pair_sublist_total ha hb differ).resolve_right fun pair => oneWay holds (related pair)

end Pairs

end Devirt
