import Mathlib.Data.List.Nodup
import Devirt.Analysis
import Devirt.Proofs.LowercaseInContext
import Devirt.Proofs.MarkerEvidence

/-!
# Markers that are added

A detector starts with the built-in markers, and any number of texts can be added, before or after
a hierarchy is given. However it came about, the built-in markers come first, and no two markers
look for the same text or for nothing. Adding a marker loses no call that was found: only what is
told as its evidence, and where, may change, since a new marker may be seen before an old one or
before the hierarchy is asked. A shown dispatch decides against a call whatever is added.

The detector of a run comes about in this way too. Its markers are the built-in ones and the given
texts, and it asks the hierarchy of the program if that is wanted.

A remark is compared in lowercase, and so is the marker. An added marker is found in every remark
that holds it as it was given, provided that its capital sigmas take the same forms there. That is
so everywhere for steady texts, and for no others.
-/

namespace Devirt

namespace Text

/-- Every character has a lowercase form. -/
theorem lowercaseChar_ne_nil (c : Char) : lowercaseChar c ≠ [] := by
  rw [lowercaseChar]
  split
  · exact List.cons_ne_nil _ _
  · exact List.cons_ne_nil _ _

/-- Only the empty string has an empty lowercase form. -/
theorem lowercased_eq_empty_iff {s : String} : lowercased s = "" ↔ s = "" := by
  rw [← String.toList_eq_nil_iff, ← String.toList_eq_nil_iff, lowercased, String.toList_ofList,
    lowercase]
  cases s.toList with
  | nil => exact iff_of_true rfl rfl
  | cons c cs =>
    rw [lowercaseAfter]
    refine iff_of_false (List.append_ne_nil_of_left_ne_nil ?_ _) (List.cons_ne_nil _ _)
    split
    · exact List.cons_ne_nil _ _
    · exact lowercaseChar_ne_nil c

end Text

/-- An entry behind a list whose repetitions are left out stays if it repeats none. -/
theorem eraseDupsBy_concat {α : Type} (same : α → α → Bool) (xs : List α) (x : α) :
    (xs ++ [x]).eraseDupsBy same =
      if (xs.eraseDupsBy same).any (same x) then xs.eraseDupsBy same
      else xs.eraseDupsBy same ++ [x] := by
  have loop (seen : List α) : List.eraseDupsBy.loop same (xs ++ [x]) seen =
      List.eraseDupsBy.loop same [x] (List.eraseDupsBy.loop same xs seen).reverse := by
    induction xs generalizing seen with
    | nil => rw [List.nil_append, List.eraseDupsBy.loop, List.reverse_reverse]
    | cons y xs ih =>
      have step (rest : List α) : List.eraseDupsBy.loop same (y :: rest) seen =
          List.eraseDupsBy.loop same rest (if seen.any (same y) then seen else y :: seen) := by
        rw [List.eraseDupsBy.loop]
        cases seen.any (same y) <;> rfl
      rw [List.cons_append, step, step, ih]
  rw [List.eraseDupsBy, List.eraseDupsBy, loop, List.eraseDupsBy.loop, List.any_reverse]
  cases (List.eraseDupsBy.loop same xs []).any (same x) <;> simp [List.eraseDupsBy.loop]

namespace Detection

/-- What holds of the markers of a detector: the built-in ones come first, each is looked for in
lowercase, and no two look for the same text or for nothing. -/
structure WellMarked (markers : List Marker) : Prop where
  builtinFirst : builtinMarkers <+: markers
  lowercase : ∀ marker ∈ markers, marker.needle = Text.lowercased marker.text
  nonempty : ∀ marker ∈ markers, marker.needle ≠ ""
  distinct : (markers.map (·.needle)).Nodup

/-- The built-in markers are looked for in lowercase, and no two of them for the same text. -/
theorem wellMarked_builtinMarkers : WellMarked builtinMarkers where
  builtinFirst := List.prefix_refl _
  lowercase marker mem := by
    obtain ⟨text, _, rfl⟩ := List.mem_map.mp mem
    rfl
  nonempty marker mem := by
    have texts : ∀ marker ∈ builtinMarkers, marker.text ≠ "" := by decide +kernel
    rw [needle_of_mem_builtinMarkers mem]
    exact texts marker mem
  distinct := by
    rw [List.map_congr_left fun _ mem => needle_of_mem_builtinMarkers mem]
    decide +kernel

namespace Detector

variable {detector : Detector} {text : String} {method : Method} {offset : UInt32}
  {site : CallSite}

/-- There is nothing to add: the text is blank, or a marker looks for its lowercase form. -/
def IsIdle (detector : Detector) (text : String) : Prop :=
  Text.trimmed text = "" ∨
    ∃ marker ∈ detector.markers, marker.needle = Text.lowercased (Text.trimmed text)

/-- Where there is nothing to add, nothing is added. -/
theorem addMarker_of_isIdle (idle : detector.IsIdle text) : detector.addMarker text = detector := by
  rw [addMarker]
  exact if_pos (by simpa [Marker.ofText, IsIdle] using idle)

/-- Otherwise the marker comes behind the others. -/
theorem addMarker_of_not_isIdle (new : ¬ detector.IsIdle text) :
    detector.addMarker text =
      { detector with markers := detector.markers ++ [Marker.ofText (Text.trimmed text)] } := by
  rw [addMarker]
  exact if_neg (by simpa [Marker.ofText, IsIdle] using new)

/-- The markers that there were come first. -/
theorem markers_prefix_addMarker (detector : Detector) (text : String) :
    detector.markers <+: (detector.addMarker text).markers := by
  by_cases idle : detector.IsIdle text
  · rw [addMarker_of_isIdle idle]
  · rw [addMarker_of_not_isIdle idle]
    exact List.prefix_append _ _

/-- The hierarchy stays. -/
theorem hierarchy_addMarker (detector : Detector) (text : String) :
    (detector.addMarker text).hierarchy = detector.hierarchy := by
  by_cases idle : detector.IsIdle text
  · rw [addMarker_of_isIdle idle]
  · rw [addMarker_of_not_isIdle idle]

/-- A marker looks for the text that was added, if it was not blank. -/
theorem exists_needle_addMarker (detector : Detector) (visible : Text.trimmed text ≠ "") :
    ∃ marker ∈ (detector.addMarker text).markers,
      marker.needle = Text.lowercased (Text.trimmed text) := by
  by_cases idle : detector.IsIdle text
  · rw [addMarker_of_isIdle idle]
    exact idle.resolve_left visible
  · rw [addMarker_of_not_isIdle idle]
    exact ⟨_, List.mem_append_right _ (List.mem_singleton_self _), rfl⟩

/-- What holds of the markers holds when one is added. -/
theorem wellMarked_addMarker (wellMarked : WellMarked detector.markers) (text : String) :
    WellMarked (detector.addMarker text).markers := by
  by_cases idle : detector.IsIdle text
  · rwa [addMarker_of_isIdle idle]
  · obtain ⟨visible, fresh⟩ := not_or.mp idle
    rw [addMarker_of_not_isIdle idle]
    refine ⟨wellMarked.builtinFirst.trans (List.prefix_append _ _), ?_, ?_, ?_⟩
    · rw [List.forall_mem_append, List.forall_mem_singleton]
      exact ⟨wellMarked.lowercase, rfl⟩
    · rw [List.forall_mem_append, List.forall_mem_singleton]
      exact ⟨wellMarked.nonempty, mt Text.lowercased_eq_empty_iff.mp visible⟩
    · rw [List.map_append, List.map_singleton, ← List.concat_eq_append, List.nodup_concat]
      refine ⟨fun looked => fresh ?_, wellMarked.distinct⟩
      exact List.mem_map.mp looked

/-- The later detector comes of the earlier one when markers are added and a hierarchy is given. -/
inductive LeadsTo (earlier : Detector) : Detector → Prop
  | refl : LeadsTo earlier earlier
  | addMarker {later : Detector} (leads : LeadsTo earlier later) (text : String) :
      LeadsTo earlier (later.addMarker text)
  | withHierarchy {later : Detector} (leads : LeadsTo earlier later) (hierarchy : TypeHierarchy) :
      LeadsTo earlier { later with hierarchy := some hierarchy }

namespace LeadsTo

variable {earlier later : Detector}

/-- However the later detector came about, the markers that there were come first. -/
theorem markers_prefix (leads : earlier.LeadsTo later) : earlier.markers <+: later.markers := by
  induction leads with
  | refl => exact List.prefix_refl _
  | addMarker _ text ih => exact ih.trans (markers_prefix_addMarker _ text)
  | withHierarchy _ _ ih => exact ih

/-- However the later detector came about, what held of the markers holds. -/
theorem wellMarked (leads : earlier.LeadsTo later) (wellMarked : WellMarked earlier.markers) :
    WellMarked later.markers := by
  induction leads with
  | refl => exact wellMarked
  | addMarker _ text ih => exact wellMarked_addMarker ih text
  | withHierarchy _ _ ih => exact ih

/-- Texts that are added one after the other lead to a later detector. -/
theorem foldl_addMarker (leads : earlier.LeadsTo later) (texts : List String) :
    earlier.LeadsTo (texts.foldl Detector.addMarker later) :=
  List.foldlRecOn texts Detector.addMarker leads fun _ leads text _ => leads.addMarker text

end LeadsTo

/-- Added texts give no hierarchy. -/
theorem hierarchy_foldl_addMarker (detector : Detector) (texts : List String) :
    (texts.foldl addMarker detector).hierarchy = detector.hierarchy := by
  induction texts generalizing detector with
  | nil => rfl
  | cons text texts ih => rw [List.foldl_cons, ih, hierarchy_addMarker]

/-- The detector of a run comes of whatever its markers come of. -/
theorem LeadsTo.config {earlier : Detector} {config : Config}
    (leads : earlier.LeadsTo (ofMarkers config.markers)) (program : Program) :
    earlier.LeadsTo (config.detector program) := by
  have asksNone : (ofMarkers config.markers).hierarchy = none := hierarchy_foldl_addMarker _ _
  rw [Config.detector]
  generalize ofMarkers config.markers = built at leads asksNone
  cases config.useHierarchy with
  | true => exact leads.withHierarchy _
  | false =>
    obtain ⟨markers, hierarchy⟩ := built
    subst asksNone
    exact leads

/-- The detector of a run comes of the first one. -/
theorem leadsTo_config (config : Config) (program : Program) :
    ({} : Detector).LeadsTo (config.detector program) :=
  (LeadsTo.refl.foldl_addMarker config.markers).config program

/-- Every text that a run is given was added to its detector. -/
theorem exists_addMarker_leadsTo_config {config : Config} (given : text ∈ config.markers)
    (program : Program) :
    ∃ earlier : Detector, (earlier.addMarker text).LeadsTo (config.detector program) := by
  obtain ⟨before, after, split⟩ := List.append_of_mem given
  refine ⟨before.foldl addMarker {}, LeadsTo.config ?_ program⟩
  rw [ofMarkers, split, List.foldl_append, List.foldl_cons]
  exact LeadsTo.refl.foldl_addMarker after

/-- The markers are the built-in ones and those of the texts, each looked for once. -/
theorem markers_ofMarkers (texts : List String) :
    (ofMarkers texts).markers =
      (builtinMarkers ++ ((texts.map Text.trimmed).filter (· ≠ "")).map Marker.ofText).eraseDupsBy
        fun a b => a.needle == b.needle := by
  induction texts using List.reverseRecOn with
  | nil =>
    have builtin : builtinMarkers.eraseDupsBy (fun a b => a.needle == b.needle) =
        builtinMarkers := by
      rw [builtinMarkers_eq_map]
      decide +kernel
    simp [ofMarkers, builtin]
  | append_singleton texts text ih =>
    have known : (ofMarkers texts).IsIdle text ↔ Text.trimmed text = "" ∨
        (ofMarkers texts).markers.any
          (fun marker => (Marker.ofText (Text.trimmed text)).needle == marker.needle) = true := by
      simp only [IsIdle, Marker.ofText, List.any_eq_true, beq_iff_eq,
        @eq_comm _ (Text.lowercased (Text.trimmed text))]
    have step : ofMarkers (texts ++ [text]) = (ofMarkers texts).addMarker text := by
      rw [ofMarkers, ofMarkers, List.foldl_append, List.foldl_cons, List.foldl_nil]
    rw [step, List.map_append, List.filter_append, List.map_append, ← List.append_assoc]
    by_cases blank : Text.trimmed text = ""
    · rw [addMarker_of_isIdle (.inl blank), ih]
      simp [blank]
    · have visible : [Text.trimmed text].filter (· ≠ "") = [Text.trimmed text] := by
        simpa using blank
      rw [List.map_singleton, visible, List.map_singleton, eraseDupsBy_concat, ← ih]
      split
      · rename_i again
        rw [addMarker_of_isIdle (known.mpr (.inr again))]
      · rename_i new
        rw [addMarker_of_not_isIdle (mt known.mp (not_or.mpr ⟨blank, new⟩))]

/-- Where there was evidence there still is some when a marker is added. -/
theorem isSome_evidenceAt?_addMarker (text : String)
    (shown : (detector.evidenceAt? method site).isSome) :
    ((detector.addMarker text).evidenceAt? method site).isSome := by
  have sameHierarchy : (detector.addMarker text).hierarchyEvidence? =
      detector.hierarchyEvidence? := by
    funext target direct all
    rw [hierarchyEvidence?, hierarchyEvidence?, hierarchy_addMarker]
  rw [isSome_evidenceAt?_iff, isSome_markerEvidence?] at shown
  rw [isSome_evidenceAt?_iff, isSome_markerEvidence?, sameHierarchy]
  obtain ⟨quiet, seen | reasoned⟩ := shown
  · obtain ⟨instruction, mem, comment, stands, marker, listed, mentioned⟩ := seen
    have kept := (markers_prefix_addMarker detector text).subset listed
    exact ⟨quiet, .inl ⟨instruction, mem, comment, stands, marker, kept, mentioned⟩⟩
  · exact ⟨quiet, .inr reasoned⟩

end Detector

/-- The call site that a finding is about. -/
def Finding.site (finding : Finding) : CallSite := ⟨finding.offset, finding.kind, finding.target⟩

end Detection

/-- The detector is the one that a run over the program with the configuration asks for. -/
structure Config.AsksFor (config : Config) (program : Program)
    (detector : Detection.Detector) : Prop where
  /-- The markers are the built-in ones and those of the given texts. Blanks at the ends of a text
  do not count and blank texts are left out; of markers that look for one text the first is kept. -/
  markers : detector.markers = (Detection.builtinMarkers ++
    ((config.markers.map Text.trimmed).filter (· ≠ "")).map Detection.Marker.ofText).eraseDupsBy
      fun a b => a.needle == b.needle
  /-- So the built-in ones come first, and no two look for the same text or for nothing. -/
  wellMarked : Detection.WellMarked detector.markers
  /-- Every given text is looked for, unless it is blank. -/
  given : ∀ text ∈ config.markers, Text.trimmed text ≠ "" →
    ∃ marker ∈ detector.markers, marker.needle = Text.lowercased (Text.trimmed text)
  /-- The hierarchy is that of the program if one is wanted; otherwise there is none. -/
  hierarchy : ∀ hierarchy, detector.hierarchy = some hierarchy ↔
    config.useHierarchy = true ∧ hierarchy = program.typeHierarchy

/-- The detector of a run is the one that is asked for. -/
theorem Config.asksFor_detector (config : Config) (program : Program) :
    config.AsksFor program (config.detector program) where
  markers := Detection.Detector.markers_ofMarkers config.markers
  wellMarked := (Detection.Detector.leadsTo_config config program).wellMarked
    Detection.wellMarked_builtinMarkers
  given := by
    intro text mem visible
    obtain ⟨earlier, later⟩ := Detection.Detector.exists_addMarker_leadsTo_config mem program
    obtain ⟨marker, listed, looked⟩ :=
      Detection.Detector.exists_needle_addMarker earlier visible
    exact ⟨marker, later.markers_prefix.subset listed, looked⟩
  hierarchy := by
    intro hierarchy
    rw [detector]
    cases config.useHierarchy <;> simp [eq_comm]

/-- The comment line is a remark about code of the call itself at the offset. -/
def Method.RemarksAt (method : Method) (offset : UInt32) (comment : Comment) : Prop :=
  ∃ instruction ∈ method.instructions, instruction.IsDirect method.member offset ∧
    comment ∈ instruction.comments ∧ comment.isRemark = true

instance (method : Method) (offset : UInt32) : Decidable (method.IsUndispatched offset) :=
  decidable_of_iff _ Method.isUndispatched_iff.symm

instance (instruction : Instruction) (member : Member) (offset : UInt32) :
    Decidable (instruction.IsDirect member offset) :=
  inferInstanceAs (Decidable (_ ∈ _))

instance (method : Method) (offset : UInt32) (comment : Comment) :
    Decidable (method.RemarksAt offset comment) :=
  inferInstanceAs (Decidable (∃ _ ∈ method.instructions, _))

namespace Detection.Detector

variable {detector : Detector} {text : String} {method : Method} {offset : UInt32}

/-- The call sites that are found are the candidates with evidence. -/
theorem map_site_find (detector : Detector) (method : Method) :
    (detector.find method).map Finding.site =
      (candidates method).filter fun site => (detector.evidenceAt? method site).isSome := by
  rw [find_eq_filterMap, List.map_filterMap, ← List.filterMap_eq_filter]
  congr 1
  funext site
  cases shown : detector.evidenceAt? method site <;>
    simp [Option.guard, shown, Finding.site, findingOf]

/-- Markers only add. However a detector came about, its markers look for different texts and none
for nothing, and the built-in ones come first. When a marker is added, the call sites that were
found are found again, in their order, with their kinds and targets. Never is one found where code
of the call itself shows a dispatch. Nothing at all changes when the added text is blank or has the
lowercase form of a marker that there was. -/
theorem markers_only_add (builds : ({} : Detector).LeadsTo detector) (text : String)
    (method : Method) :
    (∀ marker ∈ detector.markers, marker.needle ≠ "") ∧
      (detector.markers.map (·.needle)).Nodup ∧
      builtinMarkers <+: detector.markers ∧
      ((detector.find method).map Finding.site).Sublist
        (((detector.addMarker text).find method).map Finding.site) ∧
      (∀ finding ∈ detector.find method, method.IsUndispatched finding.offset) ∧
      (Text.trimmed text = "" ∨ (∃ marker ∈ detector.markers,
          Text.lowercased marker.text = Text.lowercased (Text.trimmed text)) →
        (detector.addMarker text).find method = detector.find method) := by
  have wellMarked := builds.wellMarked wellMarked_builtinMarkers
  refine ⟨wellMarked.nonempty, wellMarked.distinct, wellMarked.builtinFirst, ?_, ?_, ?_⟩
  -- The candidates are the same, and more of them have evidence. What it is does not matter here.
  · rw [map_site_find, map_site_find]
    exact List.monotone_filter_right _ fun site shown => isSome_evidenceAt?_addMarker text shown
  · intro finding mem
    obtain ⟨site, evidence, _, shown, rfl⟩ := mem_find.mp mem
    exact (isSome_evidenceAt?_iff.mp (Option.isSome_of_eq_some shown)).1
  · intro known
    have idle : detector.IsIdle text := by
      refine known.imp_right fun parts => ?_
      obtain ⟨marker, listed, same⟩ := parts
      exact ⟨marker, listed, (wellMarked.lowercase marker listed).trans same⟩
    rw [addMarker_of_isIdle idle]

/-- A method with one virtual call and a remark about it. -/
def remarkedPaint (remark : String) : Method := {
  member := ⟨"Canvas", "paint", "()V"⟩
  callSites := [⟨5, .virtual, ⟨"Shape", "area", "()D"⟩⟩]
  instructions := [{
    label := some "@5", address := 16, mnemonic := "call"
    comments := [Comment.ofText remark] }] }

/-- The first detector with a hierarchy where the target's class is final. -/
def finalShape : Detector :=
  { ({} : Detector) with hierarchy := some (.ofList [{ name := "Shape", isFinal := true }]) }

/-- The markers of the first detector are their own lowercase forms. -/
theorem builtin_eq :
    ({} : Detector) = ⟨builtinMarkers.map fun marker => ⟨marker.text, marker.text⟩, none⟩ := by
  rw [← builtinMarkers_eq_map]

/-- A marker is seen before the hierarchy is asked. The evidence is another one, and the call site
stays. -/
theorem markers_of_finalShape :
    ({} : Detector).LeadsTo finalShape ∧
      (finalShape.find (remarkedPaint "; Guard elided")).map (·.evidence) =
        ["receiver class Shape is final"] ∧
      ((finalShape.addMarker " guard").find (remarkedPaint "; Guard elided")).map (·.evidence) =
        ["guard"] ∧
      ((finalShape.find (remarkedPaint "; Guard elided")).map Finding.site).Sublist
        (((finalShape.addMarker " guard").find (remarkedPaint "; Guard elided")).map
          Finding.site) := by
  have builds : ({} : Detector).LeadsTo finalShape := LeadsTo.refl.withHierarchy _
  obtain ⟨_, _, _, kept, _, _⟩ := markers_only_add builds " guard" (remarkedPaint "; Guard elided")
  refine ⟨builds, ?_, ?_, kept⟩
  · rw [finalShape, builtin_eq]
    decide +kernel
  · rw [finalShape, builtin_eq]
    decide +kernel

/-- A marker in a remark about the call itself is evidence, unless a dispatch is shown. -/
theorem exists_finding_of_marker {comment : Comment}
    (called : ∃ site ∈ method.callSites,
      (site.kind = .virtual ∨ site.kind = .interface) ∧ site.offset = offset)
    (remarked : method.RemarksAt offset comment)
    (shown : ∃ marker ∈ detector.markers,
      Text.contains (Text.lowercased comment.text) marker.needle = true)
    (undispatched : method.IsUndispatched offset) :
    ∃ finding ∈ detector.find method, finding.offset = offset ∧
      ∃ marker ∈ detector.markers, finding.evidence = marker.text := by
  obtain ⟨site, stands⟩ := Option.isSome_iff_exists.mp (Method.isSome_siteAt?.mpr called)
  obtain ⟨instruction, mem, direct, line, remark⟩ := remarked
  obtain ⟨marker, listed, occurs⟩ := shown
  have placed := (Method.siteAt?_eq_some stands).2
  subst placed
  have seen : (detector.markerEvidence? (method.directlyLinkedTo site.offset)).isSome :=
    isSome_markerEvidence?.mpr ⟨instruction, Method.mem_directlyLinkedTo.mpr ⟨mem, direct⟩, comment,
      line, marker, listed, Comment.mentions_iff.mpr ⟨remark, occurs⟩⟩
  obtain ⟨evidence, told⟩ := Option.isSome_iff_exists.mp seen
  -- The markers are asked before the hierarchy, so what they tell is the evidence.
  have evidenceThere : detector.evidenceAt? method site = some evidence := by
    rw [evidenceAt?, if_neg (Method.isUndispatched_iff.mp undispatched), told, Option.some_or]
  refine ⟨_, mem_find.mpr ⟨site, evidence, stands, evidenceThere, rfl⟩, rfl, ?_⟩
  obtain ⟨_, _, word, _, _, ⟨_, before, after, split, _⟩, rfl⟩ :=
    markerEvidence?_eq_some_iff.mp told
  exact ⟨word, by rw [split]; exact List.mem_append_right _ List.mem_cons_self, rfl⟩

/-- An added marker is found where a remark about the call itself holds it as it was given, without
blanks at its ends, and no dispatch is shown, if the capital sigmas of the marker take the same
forms there. A steady marker has no others, so it is found in every such remark. The steady texts
are those that are found in lowercase wherever they occur. -/
theorem verbatim_marker_is_found {earlier : Detector} {comment : Comment}
    {front back : List Char} (visible : Text.trimmed text ≠ "")
    (added : (earlier.addMarker text).LeadsTo detector)
    (called : ∃ site ∈ method.callSites,
      (site.kind = .virtual ∨ site.kind = .interface) ∧ site.offset = offset)
    (remarked : method.RemarksAt offset comment)
    (verbatim : comment.text.toList = front ++ (Text.trimmed text).toList ++ back)
    (undispatched : method.IsUndispatched offset) :
    (Text.IsSteady (Text.trimmed text).toList ∨
        Text.KeepsSigmas front (Text.trimmed text).toList back →
      ∃ finding ∈ detector.find method, finding.offset = offset ∧
        ∃ marker ∈ detector.markers, finding.evidence = marker.text) ∧
      (Text.IsSteady (Text.trimmed text).toList ↔
        ∀ front back, Text.lowercase (Text.trimmed text).toList <:+:
          Text.lowercase (front ++ (Text.trimmed text).toList ++ back)) := by
  refine ⟨fun sigmas => ?_, Text.isSteady_iff_forall_occurs⟩
  have keeps : Text.KeepsSigmas front (Text.trimmed text).toList back :=
    sigmas.elim (·.keepsSigmas front back) id
  obtain ⟨marker, listed, looked⟩ := exists_needle_addMarker earlier visible
  have occurs : Text.contains (Text.lowercased comment.text) marker.needle = true := by
    rw [looked, Text.contains, Text.occursIn_iff, Text.lowercased, Text.lowercased,
      String.toList_ofList, String.toList_ofList, verbatim]
    exact keeps.occurs
  have kept := added.markers_prefix.subset listed
  exact exists_finding_of_marker called remarked ⟨marker, kept, occurs⟩ undispatched

/-- The sigma of the marker ends a word in the remark as well, so the marker is found there. -/
theorem verbatim_marker_of_wholeWord :
    Text.KeepsSigmas "; ".toList (Text.trimmed " ΤΕΛΟΣ ").toList " ΚΛΗΣΗΣ".toList ∧
      ∃ finding ∈ ((({} : Detector).addMarker " ΤΕΛΟΣ ").addMarker "guard").find
          (remarkedPaint "; ΤΕΛΟΣ ΚΛΗΣΗΣ"),
        finding.offset = 5 ∧
          ∃ marker ∈ ((({} : Detector).addMarker " ΤΕΛΟΣ ").addMarker "guard").markers,
            finding.evidence = marker.text := by
  have visible : Text.trimmed " ΤΕΛΟΣ " ≠ "" := by decide +kernel
  have keeps : Text.KeepsSigmas "; ".toList (Text.trimmed " ΤΕΛΟΣ ").toList " ΚΛΗΣΗΣ".toList := by
    decide +kernel
  have called : ∃ site ∈ (remarkedPaint "; ΤΕΛΟΣ ΚΛΗΣΗΣ").callSites,
      (site.kind = .virtual ∨ site.kind = .interface) ∧ site.offset = 5 :=
    ⟨_, List.mem_singleton_self _, .inl rfl, rfl⟩
  have remarked : (remarkedPaint "; ΤΕΛΟΣ ΚΛΗΣΗΣ").RemarksAt 5
      (Comment.ofText "; ΤΕΛΟΣ ΚΛΗΣΗΣ") := by decide +kernel
  have verbatim : (Comment.ofText "; ΤΕΛΟΣ ΚΛΗΣΗΣ").text.toList =
      "; ".toList ++ (Text.trimmed " ΤΕΛΟΣ ").toList ++ " ΚΛΗΣΗΣ".toList := by decide +kernel
  have undispatched : (remarkedPaint "; ΤΕΛΟΣ ΚΛΗΣΗΣ").IsUndispatched 5 := by decide +kernel
  have added : (({} : Detector).addMarker " ΤΕΛΟΣ ").LeadsTo
      ((({} : Detector).addMarker " ΤΕΛΟΣ ").addMarker "guard") := LeadsTo.refl.addMarker "guard"
  obtain ⟨found, _⟩ :=
    verbatim_marker_is_found visible added called remarked verbatim undispatched
  exact ⟨keeps, found (.inr keeps)⟩

/-- A marker that ends in a sigma, and a remark that holds it within a longer word. Nothing is found
there, since the sigma of the marker alone is a final one, and the sigma in the remark is not. -/
theorem verbatim_marker_in_longerWord_missed :
    Text.trimmed "ΚΛΗΣ" ≠ "" ∧
      (∃ site ∈ (remarkedPaint "; ΚΛΗΣΗ").callSites,
        (site.kind = .virtual ∨ site.kind = .interface) ∧ site.offset = 5) ∧
      (remarkedPaint "; ΚΛΗΣΗ").RemarksAt 5 (Comment.ofText "; ΚΛΗΣΗ") ∧
      (Text.trimmed "ΚΛΗΣ").toList <:+: (Comment.ofText "; ΚΛΗΣΗ").text.toList ∧
      (remarkedPaint "; ΚΛΗΣΗ").IsUndispatched 5 ∧
      (({} : Detector).addMarker "ΚΛΗΣ").find (remarkedPaint "; ΚΛΗΣΗ") = [] := by
  refine ⟨?_, ?_, ?_, ?_, ?_, ?_⟩
  · decide +kernel
  · exact ⟨_, List.mem_singleton_self _, .inl rfl, rfl⟩
  · decide +kernel
  · decide +kernel
  · decide +kernel
  · rw [builtin_eq]
    decide +kernel

end Detection.Detector

end Devirt
