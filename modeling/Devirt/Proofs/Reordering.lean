import Mathlib.Data.List.Forall2
import Mathlib.Data.List.Perm.Basic
import Devirt.Proofs.Ascending

/-!
# Lists that differ in their order

Two lists are reorderings of each other, up to a relation between their entries, when one of them
can be permuted so that the entries are related place by place. What is computed from the entries
in turn carries this over. Sorting by keys that do not repeat brings it back to the relation place
by place: the keys leave no choice of an order.
-/

namespace Devirt

variable {α β γ δ κ : Type}

/-- The lists have related entries, whatever order they stand in. -/
def Reordered (R : α → β → Prop) (xs : List α) (ys : List β) : Prop :=
  ∃ zs, xs.Perm zs ∧ List.Forall₂ R zs ys

/-- Values on which entries related place by place agree are the same lists. -/
theorem map_eq_of_forall₂ {R : α → β → Prop} {xs : List α} {ys : List β}
    (each : List.Forall₂ R xs ys) {f : α → γ} {g : β → γ} (same : ∀ x y, R x y → f x = g y) :
    xs.map f = ys.map g := by
  rw [← List.forall₂_eq_eq_eq, List.forall₂_map_left_iff, List.forall₂_map_right_iff]
  exact each.imp same

namespace Reordered

variable {R : α → β → Prop} {xs : List α} {ys : List β}

/-- Lists that are related place by place are related. -/
theorem of_forall₂ (each : List.Forall₂ R xs ys) : Reordered R xs ys := ⟨xs, List.Perm.refl _, each⟩

/-- Either list may come first. -/
theorem symm (related : Reordered R xs ys) : Reordered (fun y x => R x y) ys xs := by
  obtain ⟨zs, perm, each⟩ := related
  obtain ⟨ws, before, after⟩ := List.perm_comp_forall₂ perm each
  exact ⟨ws, after.symm, before.flip⟩

/-- Each list may be permuted. -/
theorem perm (related : Reordered R xs ys) {left : List α} {right : List β} (first : left.Perm xs)
    (second : right.Perm ys) : Reordered R left right := by
  obtain ⟨zs, here, each⟩ := related
  obtain ⟨ws, there, back⟩ := (show Reordered R left ys from ⟨zs, first.trans here, each⟩).symm
  exact symm ⟨ws, second.trans there, back⟩

/-- An entry of the second list is related to one of the first. -/
theorem exists_of_mem (related : Reordered R xs ys) {y : β} (mem : y ∈ ys) : ∃ x ∈ xs, R x y := by
  obtain ⟨zs, perm, each⟩ := related
  induction each generalizing xs with
  | nil => cases mem
  | @cons x first zs rest own _ ih =>
    rcases List.mem_cons.mp mem with rfl | mem
    · exact ⟨x, perm.mem_iff.mpr List.mem_cons_self, own⟩
    · obtain ⟨other, below, same⟩ := ih mem (List.Perm.refl zs)
      exact ⟨other, perm.mem_iff.mpr (List.mem_cons_of_mem _ below), same⟩

/-- Values on which related entries agree are the same values. -/
theorem map_perm (related : Reordered R xs ys) {f : α → γ} {g : β → γ}
    (same : ∀ x y, R x y → f x = g y) : (xs.map f).Perm (ys.map g) := by
  obtain ⟨zs, perm, each⟩ := related
  exact map_eq_of_forall₂ each same ▸ perm.map f

/-- What comes of related entries is related. -/
theorem comp (related : Reordered R xs ys) {as : List γ} {bs : List δ} {L : α → γ → Prop}
    {M : β → δ → Prop} {Q : γ → δ → Prop} (left : List.Forall₂ L xs as)
    (right : List.Forall₂ M ys bs) (combine : ∀ x y a b, R x y → L x a → M y b → Q a b) :
    Reordered Q as bs := by
  obtain ⟨zs, perm, each⟩ := related
  obtain ⟨ws, between, toWs⟩ := List.perm_comp_forall₂ perm.symm left
  refine ⟨ws, toWs.symm, ?_⟩
  clear perm toWs left
  induction each generalizing ws bs with
  | nil =>
    cases between
    cases right
    exact .nil
  | cons own _ ih =>
    cases between with
    | cons loaded others =>
      cases right with
      | cons loaded' others' =>
        exact .cons (combine _ _ _ _ own loaded loaded') (ih others' _ others)

section Keys

variable [LE κ] [LT κ] [Std.IsLinearOrder κ] [Std.LawfulOrderLT κ] {key : α → κ} {otherKey : β → κ}
  (same : ∀ x y, R x y → key x = otherKey y)
include same

/-- Strictly ascending lists are related place by place. -/
theorem forall₂_of_ascending (related : Reordered R xs ys) (first : xs.Pairwise (key · < key ·))
    (second : ys.Pairwise (otherKey · < otherKey ·)) : List.Forall₂ R xs ys := by
  obtain ⟨zs, perm, each⟩ := related
  have third : zs.Pairwise (key · < key ·) := by
    rw [← List.pairwise_map (f := key), map_eq_of_forall₂ each same]
    exact List.pairwise_map.mpr second
  have equal : xs = zs := perm.eq_of_pairwise
    (fun a b _ _ lt gt => absurd (Std.lt_trans lt gt) Std.lt_irrefl) first third
  exact equal ▸ each

/-- Lists whose keys do not repeat are related place by place once they are sorted. -/
theorem forall₂_sortOn [DecidableLE κ] (related : Reordered R xs ys)
    (distinct : (xs.map key).Nodup) :
    List.Forall₂ R (sortOn key xs) (sortOn otherKey ys) := by
  have others : (ys.map otherKey).Nodup := (related.map_perm same).nodup_iff.mp distinct
  exact (related.perm (sortOn_perm key xs) (sortOn_perm otherKey ys)).forall₂_of_ascending same
    (pairwise_lt_sortOn distinct) (pairwise_lt_sortOn others)

end Keys

/-- Where keys do not repeat, sorting forgets the order. -/
theorem sortOn_eq_of_perm [LE κ] [LT κ] [Std.IsLinearOrder κ] [Std.LawfulOrderLT κ] [DecidableLE κ]
    {key : α → κ} {left right : List α} (perm : left.Perm right) (distinct : (left.map key).Nodup) :
    sortOn key left = sortOn key right := by
  have related : Reordered Eq left right := ⟨right, perm, List.forall₂_refl right⟩
  rw [← List.forall₂_eq_eq_eq]
  exact related.forall₂_sortOn (fun _ _ same => congrArg key same) distinct

end Reordered

end Devirt
