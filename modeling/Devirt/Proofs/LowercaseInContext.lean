import Mathlib.Data.List.Forall2
import Mathlib.Data.List.Infix
import Devirt.Proofs.PlainText

/-!
# Lowercase text in its context

Lowercase text is made character by character, with one exception: which of its two forms a
capital sigma takes depends on what stands around it. So a text that occurs in another one need not
occur there in lowercase. It does where its sigmas take the forms that they have in the text alone.

Only the nearest characters on both sides of a sigma count, and those that case ignores do not. The
characters around a text therefore reach no sigma that has others of the text on both sides. A text
is steady when they do not change the sigma in front or the one at the end either. The steady texts
are those that are found in lowercase wherever they occur; texts without capital sigma are steady.
-/

namespace Devirt.Text

/-- The form of a sigma behind the characters `before`, nearest first, and in front of `behind`. -/
def sigmaForm (before behind : List Char) : Char :=
  if nearestIsCased before && !nearestIsCased behind then 'ς' else 'σ'

/-- The lowercase form of a text behind the characters `before`, nearest first, and in front of
`behind`. -/
def lowercaseWithin (before behind : List Char) : List Char → List Char
  | [] => []
  | c :: cs =>
    (if c = 'Σ' then [sigmaForm before (cs ++ behind)] else lowercaseChar c) ++
      lowercaseWithin (c :: before) behind cs

/-- With nothing behind it a text has its form behind the characters before it. -/
theorem lowercaseAfter_eq_within (before cs : List Char) :
    lowercaseAfter before cs = lowercaseWithin before [] cs := by
  induction cs generalizing before with
  | nil => rfl
  | cons c cs ih => rw [lowercaseAfter, lowercaseWithin, ih, sigmaForm, List.append_nil]

/-- A text is put into lowercase part by part, each part within the others. -/
theorem lowercaseWithin_append (before behind xs ys : List Char) :
    lowercaseWithin before behind (xs ++ ys) =
      lowercaseWithin before (ys ++ behind) xs ++
        lowercaseWithin (xs.reverse ++ before) behind ys := by
  induction xs generalizing before with
  | nil => rfl
  | cons c xs ih =>
    rw [List.cons_append, lowercaseWithin, lowercaseWithin, ih, List.append_assoc,
      List.append_assoc, List.reverse_cons, List.append_assoc]
    rfl

/-- A text within a longer one has a place in the lowercase form of that. -/
theorem lowercase_append_append (front text back : List Char) :
    lowercase (front ++ text ++ back) =
      lowercaseWithin [] (text ++ back) front ++ lowercaseWithin front.reverse back text ++
        lowercaseWithin (front ++ text).reverse [] back := by
  rw [lowercase, lowercaseAfter_eq_within, lowercaseWithin_append, lowercaseWithin_append]
  simp only [List.append_nil]

section Places

variable {before before' behind behind' cs : List Char}

/-- Within different surroundings the lowercase forms of a text are related place by place if the
forms of its sigmas are. -/
theorem forall₂_lowercaseWithin {R : Char → Char → Prop} (refl : ∀ c, R c c)
    (sigmas : ∀ inFront inBack, cs = inFront ++ 'Σ' :: inBack →
      R (sigmaForm (inFront.reverse ++ before) (inBack ++ behind))
        (sigmaForm (inFront.reverse ++ before') (inBack ++ behind'))) :
    List.Forall₂ R (lowercaseWithin before behind cs) (lowercaseWithin before' behind' cs) := by
  induction cs generalizing before before' with
  | nil => exact .nil
  | cons c cs ih =>
    have rest : List.Forall₂ R (lowercaseWithin (c :: before) behind cs)
        (lowercaseWithin (c :: before') behind' cs) := by
      refine ih fun inFront inBack split => ?_
      have form := sigmas (c :: inFront) inBack (by rw [split, List.cons_append])
      rwa [List.reverse_cons, List.append_assoc, List.append_assoc] at form
    rw [lowercaseWithin, lowercaseWithin]
    by_cases sigma : c = 'Σ'
    · subst sigma
      exact .cons (sigmas [] cs rfl) rest
    · rw [if_neg sigma, if_neg sigma]
      exact List.rel_append (List.forall₂_same.mpr fun c _ => refl c) rest

/-- The surroundings of a text have no part in the length of its lowercase form. -/
theorem length_lowercaseWithin (before before' behind behind' cs : List Char) :
    (lowercaseWithin before behind cs).length = (lowercaseWithin before' behind' cs).length :=
  (forall₂_lowercaseWithin (R := fun _ _ => True) (fun _ => trivial)
    fun _ _ _ => trivial).length_eq

/-- Equal lowercase forms have every sigma in the same form. -/
theorem sigmaForm_eq_of_lowercaseWithin_eq
    (same : lowercaseWithin before behind cs = lowercaseWithin before' behind' cs)
    {inFront inBack : List Char} (split : cs = inFront ++ 'Σ' :: inBack) :
    sigmaForm (inFront.reverse ++ before) (inBack ++ behind) =
      sigmaForm (inFront.reverse ++ before') (inBack ++ behind') := by
  subst split
  rw [lowercaseWithin_append, lowercaseWithin_append] at same
  have behindFront := (List.append_inj same (length_lowercaseWithin _ _ _ _ inFront)).2
  exact (List.cons.inj behindFront).1

end Places

/-- Between these texts no capital sigma of a text takes another form than it has in the text
alone. -/
def KeepsSigmas (front text back : List Char) : Prop :=
  ∀ inFront inBack, text = inFront ++ 'Σ' :: inBack →
    sigmaForm (front ++ inFront).reverse (inBack ++ back) = sigmaForm inFront.reverse inBack

section Surroundings

variable {front text back : List Char}

/-- The lowercase form of a text is found in its place when its sigmas keep their forms. -/
theorem lowercaseWithin_eq_iff :
    lowercaseWithin front.reverse back text = lowercase text ↔ KeepsSigmas front text back := by
  rw [lowercase, lowercaseAfter_eq_within]
  apply Iff.intro
  · intro same inFront inBack split
    have form := sigmaForm_eq_of_lowercaseWithin_eq same split
    rwa [← List.reverse_append, List.append_nil, List.append_nil] at form
  · intro keeps
    rw [← List.forall₂_eq_eq_eq]
    refine forall₂_lowercaseWithin (fun _ => rfl) fun inFront inBack split => ?_
    rw [← List.reverse_append, List.append_nil, List.append_nil]
    exact keeps inFront inBack split

instance (front text back : List Char) : Decidable (KeepsSigmas front text back) :=
  decidable_of_iff _ lowercaseWithin_eq_iff

/-- Where its sigmas keep their forms a text is found in lowercase. -/
theorem KeepsSigmas.occurs (keeps : KeepsSigmas front text back) :
    lowercase text <:+: lowercase (front ++ text ++ back) := by
  rw [lowercase_append_append, lowercaseWithin_eq_iff.mpr keeps]
  exact List.infix_append _ _ _

/-- Lists that differ only in that some entries `x` of the first are `y` in the second are equal if
the second has as many `x`. -/
theorem eq_of_forall₂_of_count_le {α : Type} [DecidableEq α] {x y : α} (differ : x ≠ y)
    {xs ys : List α} (each : List.Forall₂ (fun a b => a = b ∨ a = x ∧ b = y) xs ys)
    (notFewer : xs.count x ≤ ys.count x) : xs = ys := by
  have both : ys.count x ≤ xs.count x ∧ (xs.count x ≤ ys.count x → xs = ys) := by
    clear notFewer
    induction each with
    | nil => exact ⟨Nat.le_refl _, fun _ => rfl⟩
    | @cons a b xs ys own _ ih =>
      obtain ⟨fewer, same⟩ := ih
      rcases own with rfl | ⟨rfl, rfl⟩
      · simp only [List.count_cons, Nat.add_le_add_iff_right]
        exact ⟨fewer, fun notFewer => by rw [same notFewer]⟩
      · rw [List.count_cons_self, List.count_cons_of_ne differ.symm]
        exact ⟨by omega, fun notFewer => by omega⟩
  exact both.2 notFewer

/-- Surroundings that turn no sigma but from one form into the other, and have no sigma of the
first form themselves, keep all sigmas of a text that is found between them. -/
theorem keepsSigmas_of_occurs {x y : Char} (differ : x ≠ y)
    (turned : ∀ inFront inBack, text = inFront ++ 'Σ' :: inBack →
      sigmaForm inFront.reverse inBack = sigmaForm (front ++ inFront).reverse (inBack ++ back) ∨
        sigmaForm inFront.reverse inBack = x ∧
          sigmaForm (front ++ inFront).reverse (inBack ++ back) = y)
    (inFront : x ∉ lowercaseWithin [] (text ++ back) front)
    (inBack : x ∉ lowercaseWithin (front ++ text).reverse [] back)
    (found : lowercase text <:+: lowercase (front ++ text ++ back)) :
    KeepsSigmas front text back := by
  have notFewer : (lowercase text).count x ≤ (lowercaseWithin front.reverse back text).count x := by
    have count := found.sublist.count_le x
    rwa [lowercase_append_append, List.count_append, List.count_append,
      List.count_eq_zero_of_not_mem inFront, List.count_eq_zero_of_not_mem inBack, Nat.zero_add,
      Nat.add_zero] at count
  have each : List.Forall₂ (fun a b => a = b ∨ a = x ∧ b = y) (lowercase text)
      (lowercaseWithin front.reverse back text) := by
    rw [lowercase, lowercaseAfter_eq_within]
    refine forall₂_lowercaseWithin (fun _ => .inl rfl) fun inFront inBack split => ?_
    rw [← List.reverse_append, List.append_nil, List.append_nil]
    exact turned inFront inBack split
  exact lowercaseWithin_eq_iff.mp (eq_of_forall₂_of_count_le differ each notFewer).symm

end Surroundings

/-- The nearest character is looked for behind those that case ignores. -/
theorem nearestIsCased_append (xs ys : List Char) :
    nearestIsCased (xs ++ ys) =
      if xs.all isCaseIgnorable then nearestIsCased ys else nearestIsCased xs := by
  induction xs with
  | nil => rfl
  | cons c xs ih =>
    rw [nearestIsCased] at ih
    cases ignored : isCaseIgnorable c with
    | true => simpa [nearestIsCased, ignored] using ih
    | false => simp [nearestIsCased, ignored]

/-- Among characters that case ignores none is cased. -/
theorem nearestIsCased_of_all {cs : List Char} (ignored : cs.all isCaseIgnorable = true) :
    nearestIsCased cs = false := by
  have whole := nearestIsCased_append cs []
  rwa [List.append_nil, if_pos ignored] at whole

/-- No capital sigma of the text depends on what stands around the text. If case ignores all that
stands in front of it, a cased character is nearest behind it; if case ignores all that stands
behind it, no cased character is nearest in front of it. -/
def IsSteady (text : List Char) : Prop :=
  ∀ inFront inBack, text = inFront ++ 'Σ' :: inBack →
    (inFront.all isCaseIgnorable = true → nearestIsCased inBack = true) ∧
      (inBack.all isCaseIgnorable = true → nearestIsCased inFront.reverse = false)

/-- The sigmas of a steady text keep their forms between any two texts. -/
theorem IsSteady.keepsSigmas {text : List Char} (steady : IsSteady text) (front back : List Char) :
    KeepsSigmas front text back := by
  intro inFront inBack split
  obtain ⟨first, last⟩ := steady inFront inBack split
  rw [sigmaForm, sigmaForm, List.reverse_append, nearestIsCased_append, nearestIsCased_append,
    List.all_reverse]
  by_cases frontIgnored : inFront.all isCaseIgnorable = true
  · by_cases backIgnored : inBack.all isCaseIgnorable = true
    · exact absurd (first frontIgnored) (by simp [nearestIsCased_of_all backIgnored])
    · rw [if_pos frontIgnored, if_neg backIgnored, first frontIgnored]
      simp
  · by_cases backIgnored : inBack.all isCaseIgnorable = true
    · rw [if_neg frontIgnored, if_pos backIgnored, last backIgnored]
      simp
    · rw [if_neg frontIgnored, if_neg backIgnored]

/-- A letter that is its own lowercase form, to stand beside a text. -/
theorem lowercaseWithin_letter (before behind : List Char) :
    lowercaseWithin before behind ['a'] = ['a'] := by
  rw [lowercaseWithin, if_neg (by decide), lowercaseChar_of_isPlain (by decide), lowercaseWithin,
    List.append_nil]

/-- The letter is cased. -/
theorem nearestIsCased_letter : nearestIsCased ['a'] = true := by
  decide +kernel

/-- A letter in front of a text turns a sigma into a final one, if it turns any. -/
theorem keepsSigmas_of_letter_in_front {text : List Char}
    (found : lowercase text <:+: lowercase (['a'] ++ text ++ [])) :
    KeepsSigmas ['a'] text [] := by
  refine keepsSigmas_of_occurs (by decide : 'σ' ≠ 'ς') (fun inFront inBack _ => ?_)
    (by rw [lowercaseWithin_letter]; decide) (by simp [lowercaseWithin]) found
  rw [sigmaForm, sigmaForm, List.reverse_append, nearestIsCased_append, List.append_nil]
  by_cases ignored : inFront.reverse.all isCaseIgnorable = true
  · rw [if_pos ignored, nearestIsCased_of_all ignored, List.reverse_singleton,
      nearestIsCased_letter]
    cases nearestIsCased inBack <;> decide
  · rw [if_neg ignored]
    exact .inl rfl

/-- A letter behind a text turns a final sigma into an ordinary one, if it turns any. -/
theorem keepsSigmas_of_letter_behind {text : List Char}
    (found : lowercase text <:+: lowercase ([] ++ text ++ ['a'])) :
    KeepsSigmas [] text ['a'] := by
  refine keepsSigmas_of_occurs (by decide : 'ς' ≠ 'σ') (fun inFront inBack _ => ?_)
    (by simp [lowercaseWithin]) (by rw [lowercaseWithin_letter]; decide) found
  rw [sigmaForm, sigmaForm, List.nil_append, nearestIsCased_append]
  by_cases ignored : inBack.all isCaseIgnorable = true
  · rw [if_pos ignored, nearestIsCased_of_all ignored, nearestIsCased_letter]
    cases nearestIsCased inFront.reverse <;> decide
  · rw [if_neg ignored]
    exact .inl rfl

/-- The steady texts are those that are found in lowercase wherever they occur. -/
theorem isSteady_iff_forall_occurs {text : List Char} :
    IsSteady text ↔ ∀ front back, lowercase text <:+: lowercase (front ++ text ++ back) := by
  apply Iff.intro
  · intro steady front back
    exact (steady.keepsSigmas front back).occurs
  -- A letter is enough of surroundings to change the form of a sigma that is not steady.
  · intro everywhere inFront inBack split
    have behindLetter := keepsSigmas_of_letter_in_front (everywhere ['a'] []) inFront inBack split
    have beforeLetter := keepsSigmas_of_letter_behind (everywhere [] ['a']) inFront inBack split
    rw [sigmaForm, sigmaForm, List.reverse_append, nearestIsCased_append, List.append_nil,
      List.all_reverse, List.reverse_singleton, nearestIsCased_letter] at behindLetter
    rw [sigmaForm, sigmaForm, List.nil_append, nearestIsCased_append, nearestIsCased_letter]
      at beforeLetter
    apply And.intro
    · intro ignored
      have alone := nearestIsCased_of_all (List.all_reverse ▸ ignored)
      rw [if_pos ignored, alone] at behindLetter
      by_contra notCased
      simp [notCased] at behindLetter
    · intro ignored
      rw [if_pos ignored, nearestIsCased_of_all ignored] at beforeLetter
      by_contra cased
      simp [cased] at beforeLetter

end Devirt.Text
