import Mathlib.Data.List.Induction
import Mathlib.Data.Set.List
import Devirt.Proofs.Emissions
import Devirt.Proofs.Scanning

/-!
# Links read off stacks of frames

The frames that comment lines name are cut into stacks at the lines that name none, so a stack is
a maximal run of lines that name frames. Its link comes from the last frame that is an activation
of the member: the frame gives the offset, and its place tells whether the code was inlined.

An instruction is linked to an offset as its own code when one of these links, or the one of its
label, is direct. It is linked as inlined code when one of them is inlined and none is direct.
-/

namespace Devirt

section Stretches

variable {α : Type} {stretch : List α} {entries : List (Option α)}

/-- There is always a first stretch. -/
theorem exists_stretches_eq_cons (entries : List (Option α)) :
    ∃ first others, stretches entries = first :: others := by
  cases entries with
  | nil => exact ⟨[], [], rfl⟩
  | cons entry rest =>
    cases entry with
    | none => exact ⟨[], stretches rest, rfl⟩
    | some a =>
      rw [stretches]
      cases stretches rest with
      | nil => exact ⟨[a], [], rfl⟩
      | cons first others => exact ⟨a :: first, others, rfl⟩

/-- The first stretch is what stands in front of the first missing entry. -/
theorem head?_stretches_eq_some_iff (stretch : List α) (entries : List (Option α)) :
    (stretches entries).head? = some stretch ↔
      ∃ behind, entries = stretch.map some ++ behind ∧ ∀ entry ∈ behind.head?, entry = none := by
  induction entries generalizing stretch with
  | nil => cases stretch <;> simp [stretches]
  | cons entry rest ih =>
    cases entry with
    | none => cases stretch <;> simp [stretches]
    | some a =>
      obtain ⟨first, others, split⟩ := exists_stretches_eq_cons rest
      simp only [split, List.head?_cons, Option.some.injEq] at ih
      rw [stretches, split, consFirst, List.head?_cons, Option.some.injEq]
      cases stretch with
      | nil => simp
      | cons b stretch => simp [ih, and_assoc]

/-- Every other stretch stands behind a missing entry and ends at the next one. -/
theorem mem_tail_stretches_iff (stretch : List α) (entries : List (Option α)) :
    stretch ∈ (stretches entries).tail ↔
      ∃ before behind, entries = before ++ none :: stretch.map some ++ behind ∧
        ∀ entry ∈ behind.head?, entry = none := by
  induction entries with
  | nil => simp [stretches]
  | cons entry rest ih =>
    obtain ⟨first, others, split⟩ := exists_stretches_eq_cons rest
    have head := head?_stretches_eq_some_iff stretch rest
    rw [split, List.head?_cons, Option.some.injEq] at head
    rw [split, List.tail_cons] at ih
    cases entry with
    | none =>
      rw [stretches, List.tail_cons, split, List.mem_cons, eq_comm, head, ih]
      apply Iff.intro
      · rintro (⟨behind, rfl, ends⟩ | ⟨before, behind, rfl, ends⟩)
        · exact ⟨[], behind, rfl, ends⟩
        · exact ⟨none :: before, behind, rfl, ends⟩
      · rintro ⟨before, behind, whole, ends⟩
        cases before with
        | nil => exact .inl ⟨behind, (List.cons.inj whole).2, ends⟩
        | cons entry before => exact .inr ⟨before, behind, (List.cons.inj whole).2, ends⟩
    | some a =>
      rw [stretches, split, consFirst, List.tail_cons, ih]
      apply Iff.intro
      · rintro ⟨before, behind, rfl, ends⟩
        exact ⟨some a :: before, behind, rfl, ends⟩
      · rintro ⟨before, behind, whole, ends⟩
        cases before with
        | nil => cases whole
        | cons entry before => exact ⟨before, behind, (List.cons.inj whole).2, ends⟩

/-- A stretch is a maximal run of entries that are not missing. -/
theorem mem_stretches_iff :
    stretch ∈ stretches entries ↔
      ∃ before behind, entries = before ++ stretch.map some ++ behind ∧
        (∀ entry ∈ before.getLast?, entry = none) ∧ ∀ entry ∈ behind.head?, entry = none := by
  obtain ⟨first, others, split⟩ := exists_stretches_eq_cons entries
  have head := head?_stretches_eq_some_iff stretch entries
  have tail := mem_tail_stretches_iff stretch entries
  rw [split, List.head?_cons, Option.some.injEq] at head
  rw [split, List.tail_cons] at tail
  rw [split, List.mem_cons, eq_comm, head, tail]
  apply Iff.intro
  · rintro (⟨behind, whole, ends⟩ | ⟨before, behind, whole, ends⟩)
    · exact ⟨[], behind, whole, by simp, ends⟩
    · exact ⟨before ++ [none], behind, by simpa using whole, by simp, ends⟩
  · rintro ⟨before, behind, whole, starts, ends⟩
    rcases List.eq_nil_or_concat before with rfl | ⟨before, last, rfl⟩
    · exact .inl ⟨behind, whole, ends⟩
    · obtain rfl : last = none := starts last (by simp)
      exact .inr ⟨before, behind, by simpa using whole, ends⟩

/-- A list without missing entries is one stretch. -/
theorem stretches_map_some (entries : List α) : stretches (entries.map some) = [entries] := by
  induction entries with
  | nil => rfl
  | cons a rest ih => rw [List.map_cons, stretches, ih, consFirst]

/-- An entry behind the others goes into the last stretch. -/
theorem exists_stretches_append_some (entries : List (Option α)) (a : α) :
    ∃ front last, stretches entries = front ++ [last] ∧
      stretches (entries ++ [some a]) = front ++ [last ++ [a]] := by
  induction entries with
  | nil => exact ⟨[], [], rfl, rfl⟩
  | cons entry rest ih =>
    obtain ⟨front, last, split, extended⟩ := ih
    cases entry with
    | none =>
      refine ⟨[] :: front, last, ?_, ?_⟩
      · rw [stretches, split, List.cons_append]
      · rw [List.cons_append, stretches, extended, List.cons_append]
    | some b =>
      rw [List.cons_append, stretches, stretches, split, extended]
      cases front with
      | nil => exact ⟨[], b :: last, rfl, rfl⟩
      | cons first front => exact ⟨(b :: first) :: front, last, rfl, rfl⟩

/-- An entry missing behind the others opens an empty stretch. -/
theorem stretches_append_none (entries : List (Option α)) :
    stretches (entries ++ [none]) = stretches entries ++ [[]] := by
  induction entries with
  | nil => rfl
  | cons entry rest ih =>
    cases entry with
    | none => simp [stretches, ih]
    | some a =>
      obtain ⟨first, others, split⟩ := exists_stretches_eq_cons rest
      simp [stretches, ih, split, consFirst]

/-- What is read off nonempty stretches is not changed by missing entries at the ends. -/
theorem filterMap_stretches_append {β : Type} {f : List α → Option β} (empty : f [] = none)
    {front back : List (Option α)} (frontMissing : ∀ entry ∈ front, entry = none)
    (backMissing : ∀ entry ∈ back, entry = none) :
    (stretches (front ++ entries ++ back)).filterMap f = (stretches entries).filterMap f := by
  induction front with
  | nil =>
    induction back using List.reverseRecOn with
    | nil => simp
    | append_singleton back last ih =>
      obtain ⟨others, missing⟩ := List.forall_mem_append.mp backMissing
      rw [List.forall_mem_singleton.mp missing, ← List.append_assoc, stretches_append_none,
        List.filterMap_append, ih others]
      simp [empty]
  | cons entry front ih =>
    obtain ⟨missing, others⟩ := List.forall_mem_cons.mp frontMissing
    rw [missing, List.cons_append, List.cons_append, stretches, List.filterMap_cons_none empty,
      ih others]

end Stretches

namespace Scope

variable {member : Member} {stack : List Frame} {offset : UInt32} {instruction : Instruction}

/-- The last frame makes the link of a stack if it is an activation of the member. -/
theorem stackLink?_append_activation {last : Frame} (activation : last.names member = true) :
    stackLink? member (stack ++ [last]) = some ⟨last.offset, decide (stack ≠ [])⟩ := by
  cases stack <;> simp [stackLink?, List.zipIdx_append, activation]

/-- The link of a stack is that of the last activation of the member, inlined if frames stand in
front of it. -/
theorem stackLink?_eq_some_iff {link : Link} :
    stackLink? member stack = some link ↔
      ∃ before frame behind, stack = before ++ frame :: behind ∧ frame.names member = true ∧
        (∀ other ∈ behind, other.names member = false) ∧
        link = ⟨frame.offset, decide (before ≠ [])⟩ := by
  induction stack using List.reverseRecOn with
  | nil => simp [stackLink?]
  | append_singleton stack last ih =>
    by_cases names : last.names member = true
    · rw [stackLink?_append_activation names, Option.some.injEq]
      apply Iff.intro
      · rintro rfl
        exact ⟨stack, last, [], rfl, names, by simp, rfl⟩
      · rintro ⟨before, frame, behind, whole, _, others, rfl⟩
        rcases List.eq_nil_or_concat behind with rfl | ⟨behind, final, rfl⟩
        · obtain ⟨rfl, same⟩ := List.append_inj' whole rfl
          rw [(List.cons.inj same).1]
        · -- The last frame would be one of those behind the last activation.
          rw [List.concat_eq_append, ← List.cons_append, ← List.append_assoc] at whole
          have same := (List.cons.inj (List.append_inj' whole rfl).2).1
          exact absurd names (by simp [same, others final])
    · have earlier : stackLink? member (stack ++ [last]) = stackLink? member stack := by
        simp [stackLink?, List.zipIdx_append, names]
      rw [earlier, ih]
      apply Iff.intro
      · rintro ⟨before, frame, behind, rfl, activation, others, rfl⟩
        refine ⟨before, frame, behind ++ [last], by simp, activation, ?_, rfl⟩
        rw [List.forall_mem_append, List.forall_mem_singleton]
        exact ⟨others, by simpa using names⟩
      · rintro ⟨before, frame, behind, whole, activation, others, rfl⟩
        rcases List.eq_nil_or_concat behind with rfl | ⟨behind, final, rfl⟩
        · obtain ⟨_, same⟩ := List.append_inj' whole rfl
          rw [(List.cons.inj same).1] at names
          exact absurd activation names
        · rw [List.concat_eq_append, ← List.cons_append, ← List.append_assoc] at whole
          obtain ⟨rfl, _⟩ := List.append_inj' whole rfl
          exact ⟨before, frame, behind, rfl, activation,
            fun other mem => others other (by simp [mem]), rfl⟩

/-- The link of a stack is direct when the first frame is the only activation of the member. -/
theorem stackLink?_eq_direct_iff :
    stackLink? member stack = some ⟨offset, false⟩ ↔
      ∃ frame behind, stack = frame :: behind ∧ frame.names member = true ∧
        (∀ other ∈ behind, other.names member = false) ∧ frame.offset = offset := by
  rw [stackLink?_eq_some_iff]
  apply Iff.intro
  · rintro ⟨before, frame, behind, rfl, activation, others, same⟩
    obtain ⟨at_, first⟩ := Link.mk.inj same
    obtain rfl : before = [] := by simpa using first
    exact ⟨frame, behind, rfl, activation, others, at_.symm⟩
  · rintro ⟨frame, behind, rfl, activation, others, rfl⟩
    exact ⟨[], frame, behind, rfl, activation, others, rfl⟩

/-- A direct link comes from a frame that opens a stack and is its only activation. -/
theorem mem_stackLinks_direct_iff {entries : List (Option Frame)} :
    ⟨offset, false⟩ ∈ (stretches entries).filterMap (stackLink? member) ↔
      ∃ before frame behind, entries = before ++ some frame :: behind ∧
        (∀ entry ∈ before.getLast?, entry = none) ∧ frame.names member = true ∧
        (∀ other, some other ∈ behind.takeWhile Option.isSome → other.names member = false) ∧
        frame.offset = offset := by
  rw [List.mem_filterMap]
  apply Iff.intro
  · intro parts
    obtain ⟨stack, mem, link⟩ := parts
    obtain ⟨frame, run, rfl, activation, others, rfl⟩ := stackLink?_eq_direct_iff.mp link
    obtain ⟨before, after, rfl, starts, ends⟩ := mem_stretches_iff.mp mem
    have stop : ∀ entry ∈ after.head?, entry.isSome = false := fun entry entryMem => by
      rw [ends entry entryMem, Option.isSome_none]
    refine ⟨before, frame, run.map some ++ after, by simp, starts, activation, ?_, rfl⟩
    rw [Text.takeWhile_append_of_stop (by simp) stop]
    intro other otherMem
    exact others other (by simpa using otherMem)
  · intro parts
    obtain ⟨before, frame, behind, rfl, starts, activation, others, rfl⟩ := parts
    obtain ⟨run, stands⟩ : behind.takeWhile Option.isSome ∈ Set.range (List.map some) := by
      rw [Set.range_list_map]
      intro entry mem
      obtain ⟨frame, rfl⟩ := Option.isSome_iff_exists.mp (Text.all_takeWhile _ _ entry mem)
      exact ⟨frame, rfl⟩
    refine ⟨frame :: run, mem_stretches_iff.mpr ⟨before, behind.dropWhile Option.isSome, ?_,
      starts, ?_⟩, stackLink?_eq_direct_iff.mpr ⟨frame, run, rfl, activation, ?_, rfl⟩⟩
    · rw [List.map_cons, stands, List.append_assoc, List.cons_append,
        List.takeWhile_append_dropWhile]
    · intro entry mem
      simpa using Text.head?_dropWhile Option.isSome behind entry mem
    · intro other otherMem
      exact others other (stands ▸ List.mem_map_of_mem otherMem)

/-- The links of the label and of the stacks, one by one. -/
def singleLinks (member : Member) (instruction : Instruction) : List Link :=
  (labelLink? instruction.label).toList ++
    (frameStacks instruction.comments).filterMap (stackLink? member)

/-- Links combined one after the other are inlined when all of them are. -/
theorem map_inlined_foldl (found : List Link) :
    (found.foldl (fun built link => some (built.elim link (Link.combine · link))) none).map
        (·.inlined) =
      if found = [] then none else some (found.all (·.inlined)) := by
  have behind (first : Link) (rest : List Link) :
      (rest.foldl (fun built link => some (built.elim link (Link.combine · link)))
          (some first)).map (·.inlined) =
        some (first.inlined && rest.all (·.inlined)) := by
    induction rest generalizing first with
    | nil => simp
    | cons link rest ih => simpa [Link.combine, Bool.and_assoc] using ih (first.combine link)
  cases found with
  | nil => rfl
  | cons first rest => simpa using behind first rest

/-- How an instruction is linked to an offset, by the links one by one. -/
theorem linkedAt?_eq (member : Member) (offset : UInt32) (instruction : Instruction) :
    linkedAt? member offset instruction =
      let there := (singleLinks member instruction).filter (·.offset == offset)
      if there = [] then none else some (there.all (·.inlined)) := by
  have built : links member instruction =
      insertAll Link.offset Link.combine (singleLinks member instruction).reverse [] := by
    rw [links, List.foldr_eq_foldl_reverse, insertAll, singleLinks]
  rw [linkedAt?, built, find?_insertAll Link.combine_offset _ List.Pairwise.nil, List.find?_nil,
    map_inlined_foldl]
  simp

/-- A link is its offset and its kind. -/
theorem exists_mem_filter_iff {found : List Link} {kind : Bool} :
    (∃ link ∈ found.filter (·.offset == offset), link.inlined = kind) ↔ ⟨offset, kind⟩ ∈ found := by
  apply Iff.intro
  · intro parts
    obtain ⟨link, there, rfl⟩ := parts
    obtain ⟨mem, same⟩ := List.mem_filter.mp there
    obtain rfl : link.offset = offset := by simpa using same
    exact mem
  · intro mem
    exact ⟨_, List.mem_filter.mpr ⟨mem, by simp⟩, rfl⟩

/-- An instruction is linked to an offset as its own code when one of the links is direct. -/
theorem mem_links_direct_iff :
    ⟨offset, false⟩ ∈ links member instruction ↔
      ⟨offset, false⟩ ∈ singleLinks member instruction := by
  rw [← linkedAt?_eq_some_iff, linkedAt?_eq, ← exists_mem_filter_iff]
  by_cases unlinked : (singleLinks member instruction).filter (·.offset == offset) = []
  · simp [unlinked]
  · simp [unlinked, and_assoc]

/-- An instruction is linked to an offset as inlined code when there is such a link and no direct
one. -/
theorem mem_links_inlined_iff :
    ⟨offset, true⟩ ∈ links member instruction ↔
      ⟨offset, true⟩ ∈ singleLinks member instruction ∧
        ⟨offset, false⟩ ∉ singleLinks member instruction := by
  rw [← linkedAt?_eq_some_iff, linkedAt?_eq, ← exists_mem_filter_iff, ← exists_mem_filter_iff]
  by_cases unlinked : (singleLinks member instruction).filter (·.offset == offset) = []
  · simp [unlinked]
  · simp only [if_neg unlinked, Option.some.injEq, List.all_eq_true]
    apply Iff.intro
    · intro inlined
      obtain ⟨link, there⟩ := List.exists_mem_of_ne_nil _ unlinked
      refine ⟨⟨link, there, inlined link there⟩, ?_⟩
      rintro ⟨other, otherThere, direct⟩
      exact absurd (inlined other otherThere) (by simp [direct])
    · rintro ⟨_, noDirect⟩ link there
      by_contra direct
      exact noDirect ⟨link, there, by simpa using direct⟩

end Scope

end Devirt
