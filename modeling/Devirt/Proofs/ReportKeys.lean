import Mathlib.Data.List.Nodup
import Mathlib.Data.List.Pairwise
import Devirt.Proofs.BuilderRuns
import Devirt.Proofs.Findings
import Devirt.Proofs.PlainText

/-!
# Keys of reports

The key of a finding is its caller's fully qualified name with the offset. A report never
descends by keys. It ascends strictly exactly when no key occurs twice.

Within a method every offset is found once, and within a class every name is used once. Nothing
holds names of different classes apart: two packages may each hold a class of one name, and
both classes pass the check. So keys can repeat, exactly if two methods of one name, held by
different classes, have findings at one offset.
-/

namespace Devirt

open Detection (Detector Finding)

namespace Detection.Finding

/-- What a report is ordered by: the caller's fully qualified name and the offset. -/
def key (finding : Finding) : String × UInt32 := (finding.caller.fullName, finding.offset)

/-- The key of a finding is smaller: by name, or by offset where the names are the same. -/
def Precedes (a b : Finding) : Prop :=
  a.caller.fullName < b.caller.fullName ∨
    a.caller.fullName = b.caller.fullName ∧ a.offset < b.offset

/-- A finding may stand in front of another when its key is smaller or the same. -/
theorem precedes_iff {a b : Finding} : a.Precedes b ↔ a.mayPrecede b = true ∧ a.key ≠ b.key := by
  simp only [mayPrecede, Precedes, key, Bool.or_eq_true, Bool.and_eq_true, decide_eq_true_eq,
    beq_iff_eq, ne_eq, Prod.mk.injEq]
  by_cases same : a.caller.fullName = b.caller.fullName
  · rw [same]
    simp [Std.lt_iff_le_and_ne]
  · simp only [same, false_and, or_false, not_false_eq_true, and_true]

/-- What may stand in front of a finding may stand in front of what the finding may precede. -/
theorem mayPrecede_trans (a b c : Finding) (first : a.mayPrecede b = true)
    (second : b.mayPrecede c = true) : a.mayPrecede c = true := by
  simp only [mayPrecede, Bool.or_eq_true, Bool.and_eq_true, decide_eq_true_eq, beq_iff_eq]
    at first second ⊢
  rcases first with lt | ⟨same, le⟩
  · rcases second with lt' | ⟨same', _⟩
    · exact .inl (Std.lt_trans lt lt')
    · exact .inl (same' ▸ lt)
  · rcases second with lt' | ⟨same', le'⟩
    · exact .inl (same ▸ lt')
    · exact .inr ⟨same.trans same', Std.le_trans le le'⟩

/-- Of two findings one may stand in front of the other. -/
theorem mayPrecede_total (a b : Finding) : (a.mayPrecede b || b.mayPrecede a) = true := by
  simp only [mayPrecede, Bool.or_eq_true, Bool.and_eq_true, decide_eq_true_eq, beq_iff_eq]
  by_cases same : a.caller.fullName = b.caller.fullName
  · rcases Std.le_total (a := a.offset) (b := b.offset) with le | le
    · exact .inl (.inr ⟨same, le⟩)
    · exact .inr (.inr ⟨same.symm, le⟩)
  · rcases Std.le_total (a := a.caller.fullName) (b := b.caller.fullName) with le | le
    · exact .inl (.inl (Std.lt_iff_le_and_ne.mpr ⟨le, same⟩))
    · exact .inr (.inl (Std.lt_iff_le_and_ne.mpr ⟨le, Ne.symm same⟩))

end Detection.Finding

namespace Report

/-- A report never descends. -/
theorem pairwise_ofFindings (findings : List Finding) :
    (ofFindings findings).findings.Pairwise (·.mayPrecede ·) :=
  List.pairwise_mergeSort Finding.mayPrecede_trans Finding.mayPrecede_total findings

/-- A report ascends strictly exactly when the keys of its findings are distinct. -/
theorem pairwise_precedes_iff (findings : List Finding) :
    (ofFindings findings).findings.Pairwise Finding.Precedes ↔
      ((ofFindings findings).findings.map Finding.key).Nodup := by
  rw [List.Pairwise.iff fun _ _ => Finding.precedes_iff, List.pairwise_and_iff, List.Nodup,
    List.pairwise_map]
  exact and_iff_right (pairwise_ofFindings findings)

/-- The keys of a report are those of the findings it is made of. -/
theorem nodup_keys_iff (findings : List Finding) :
    ((ofFindings findings).findings.map Finding.key).Nodup ↔ (findings.map Finding.key).Nodup :=
  ((List.mergeSort_perm findings _).map Finding.key).nodup_iff

end Report

namespace Detection.Detector

/-- If the methods have one name, no offset is found in both. -/
def Apart (detector : Detector) (a b : Method) : Prop :=
  a.fullName = b.fullName → ∀ x ∈ detector.find a, ∀ y ∈ detector.find b, x.offset ≠ y.offset

instance (detector : Detector) (a b : Method) : Decidable (detector.Apart a b) :=
  inferInstanceAs (Decidable (_ → ∀ x ∈ _, ∀ y ∈ _, _))

/-- Methods stay apart in either order. -/
theorem Apart.symm {detector : Detector} {a b : Method} (apart : detector.Apart a b) :
    detector.Apart b a :=
  fun same x inB y inA equal => apart same.symm y inA x inB equal.symm

/-- Findings of two methods have different keys when the methods are apart. -/
theorem apart_iff {detector : Detector} {a b : Method} :
    detector.Apart a b ↔ ∀ x ∈ detector.find a, ∀ y ∈ detector.find b, x.key ≠ y.key := by
  have named {method : Method} {finding : Finding} (mem : finding ∈ detector.find method) :
      finding.caller.fullName = method.fullName :=
    congrArg Member.fullName (caller_of_mem_find mem)
  refine ⟨fun apart x inA y inB same => ?_, fun differ names x inA y inB equal => ?_⟩
  · obtain ⟨names, equal⟩ := Prod.mk.injEq .. ▸ same
    exact apart ((named inA).symm.trans (names.trans (named inB))) x inA y inB equal
  · exact differ x inA y inB
      (Prod.ext ((named inA).trans (names.trans (named inB).symm)) equal)

/-- The keys found in some methods are distinct exactly when the methods are apart. Within a
method no offset is found twice. -/
theorem nodup_keys_flatMap_iff (detector : Detector) (order : List Occurrence) :
    ((order.flatMap fun occurrence => detector.find occurrence.method).map Finding.key).Nodup ↔
      order.Pairwise fun a b => detector.Apart a.method b.method := by
  rw [List.Nodup, List.pairwise_map, List.pairwise_flatMap]
  simp only [apart_iff]
  refine and_iff_right fun occurrence _ => (pairwise_find detector occurrence.method).imp ?_
  intro a b lt same
  exact Std.ne_of_lt lt (congrArg Prod.snd same)

end Detection.Detector

namespace Program

variable {program : Program}

/-- Within one class of a program that is in order, a name tells where a method stands. -/
theorem eq_of_fullName_eq (orderly : ∀ node, program.Orderly node) {a b : Occurrence}
    (inA : a ∈ program.occurrences) (inB : b ∈ program.occurrences)
    (package : a.package = b.package) (loaded : a.loaded = b.loaded)
    (names : a.method.fullName = b.method.fullName) : a = b := by
  obtain ⟨held, has, stands⟩ := mem_occurrences.mp inA
  have distinct := ((orderly ⟨a.package, held⟩).contents.classes a.loaded has).distinct
  have method : a.method = b.method :=
    List.inj_on_of_nodup_map distinct stands (loaded ▸ (mem_occurrences.mp inB).2.2) names
  cases a
  cases b
  simp_all

/-- Compiled methods of one name that different classes hold have no findings at one offset. The
classes may stand in one package or in two. -/
def KeysApart (program : Program) (detector : Detector) : Prop :=
  ∀ a ∈ program.compiledOccurrences, ∀ b ∈ program.compiledOccurrences,
    a.package ≠ b.package ∨ a.loaded ≠ b.loaded → detector.Apart a.method b.method

instance (program : Program) (detector : Detector) : Decidable (program.KeysApart detector) :=
  inferInstanceAs (Decidable (∀ a ∈ _, ∀ b ∈ _, _ → _))

/-- Methods that different classes hold stand at different places. -/
theorem ne_of_elsewhere {a b : Occurrence}
    (elsewhere : a.package ≠ b.package ∨ a.loaded ≠ b.loaded) : a ≠ b := by
  intro same
  rcases elsewhere with differ | differ
  · exact differ (congrArg Occurrence.package same)
  · exact differ (congrArg Occurrence.loaded same)

/-- In a program that is in order only methods of different classes can fail to be apart. -/
theorem pairwise_apart_iff (orderly : ∀ node, program.Orderly node) (detector : Detector) :
    (program.compiledOccurrences.Pairwise fun a b => detector.Apart a.method b.method) ↔
      program.KeysApart detector := by
  have symm : Std.Symm fun a b : Occurrence => detector.Apart a.method b.method :=
    ⟨fun _ _ => Detector.Apart.symm⟩
  refine ⟨fun apart a inA b inB elsewhere => ?_, fun apart => ?_⟩
  · exact apart.forall inA inB (ne_of_elsewhere elsewhere)
  · apply ((nodup_occurrences orderly).filter _).pairwise_of_forall_ne
    intro a inA b inB differ names
    by_cases elsewhere : a.package ≠ b.package ∨ a.loaded ≠ b.loaded
    · exact apart a inA b inB elsewhere names
    -- Within one class the name decides the place, so `a` and `b` would be one.
    · obtain ⟨package, loaded⟩ := not_or.mp elsewhere
      exact absurd (eq_of_fullName_eq orderly (List.mem_of_mem_filter inA)
        (List.mem_of_mem_filter inB) (not_not.mp package) (not_not.mp loaded) names) differ

/-- Where no two compiled methods have one name, all keys are apart. -/
theorem keysApart_of_nodup_names (detector : Detector)
    (distinct : (program.compiledOccurrences.map (·.method.fullName)).Nodup) :
    program.KeysApart detector := by
  intro a inA b inB elsewhere names
  exact absurd (List.inj_on_of_nodup_map distinct inA inB names) (ne_of_elsewhere elsewhere)

/-- The keys of a run's report are distinct exactly when they are kept apart. -/
theorem nodup_keys_iff_keysApart {config : Config} {analysis : Analysis}
    (succeeded : program.analyze config = .ok analysis) :
    (analysis.report.findings.map Finding.key).Nodup ↔
      program.KeysApart (config.detector program) := by
  obtain ⟨accepted, order, walkOrder, made⟩ := analyze_eq_ok succeeded
  have all := walkOrder.perm_of_check accepted
  rw [made, Report.nodup_keys_iff, Detector.nodup_keys_flatMap_iff,
    all.pairwise_iff Detector.Apart.symm,
    pairwise_apart_iff (wellFormed_of_check accepted).orderly]

/-- The report of a run never descends by keys. Its keys are distinct, and then it ascends
strictly, exactly when the methods of different classes keep their keys apart. They do when no
two compiled methods have one name; the check of the structure does not see to that. -/
theorem report_keys_distinct_iff (program : Program) (config : Config) (analysis : Analysis)
    (succeeded : program.analyze config = .ok analysis) :
    analysis.report.findings.Pairwise (·.mayPrecede ·) ∧
      ((analysis.report.findings.map Finding.key).Nodup ↔
        program.KeysApart (config.detector program)) ∧
      (analysis.report.findings.Pairwise Finding.Precedes ↔
        program.KeysApart (config.detector program)) ∧
      ((program.compiledOccurrences.map (·.method.fullName)).Nodup →
        analysis.report.findings.Pairwise Finding.Precedes) := by
  obtain ⟨_, order, _, made⟩ := analyze_eq_ok succeeded
  have distinct := nodup_keys_iff_keysApart succeeded
  have strict : analysis.report.findings.Pairwise Finding.Precedes ↔
      program.KeysApart (config.detector program) := by
    rw [← distinct, made]
    exact Report.pairwise_precedes_iff _
  refine ⟨?_, distinct, strict, fun names => strict.mpr (keysApart_of_nodup_names _ names)⟩
  rw [made]
  exact Report.pairwise_ofFindings _

/-- The package with one class. Its only method makes a virtual call at the offset, and the one
instruction emitted for the call is marked as inlined. -/
def withCanvas (package : Package) (offset : UInt32) : Package :=
  { package with
    classes := [{
      info := { name := "Canvas" }, package := package.name,
      methods := [{
        member := ⟨"Canvas", "paint", "()V"⟩
        callSites := [⟨offset, .virtual, ⟨"Shape", "area", "()D"⟩⟩]
        instructions := [{
          label := some ("@" ++ toString offset.toNat), address := 16, mnemonic := "call",
          comments := [Comment.ofText "; inlined, no dispatch"] }] }] }] }

/-- A package and its child, each with a class of its own. The classes have one name. -/
def twinClasses (offset : UInt32) : Program where
  packages := [
    withCanvas { name := "a", children := ["a.b"] } 5,
    withCanvas { name := "a.b", parent := some "a" } offset]
  ascending := List.pairwise_pair.mpr (by decide : "a" < "a.b")

/-- Without further markers the detector looks for the texts of the built-in ones. -/
theorem detector_default (program : Program) :
    ({} : Config).detector program =
      ⟨Detection.builtinMarkers.map fun marker => ⟨marker.text, marker.text⟩, none⟩ := by
  rw [← Detection.builtinMarkers_eq_map]
  rfl

/-- With their calls at different offsets the twins keep their keys apart. -/
theorem keys_of_twinClasses_apart :
    ∃ analysis, (twinClasses 7).analyze {} = .ok analysis ∧
      analysis.report.findings.Pairwise Finding.Precedes := by
  have accepted : (twinClasses 7).check = .ok () := by decide +kernel
  obtain ⟨analysis, succeeded⟩ := exists_analyze_eq_ok accepted {}
  have apart : (twinClasses 7).KeysApart (({} : Config).detector (twinClasses 7)) := by
    rw [detector_default]
    decide +kernel
  exact ⟨analysis, succeeded, (report_keys_distinct_iff _ _ analysis succeeded).2.2.1.mpr apart⟩

/-- With their calls at one offset the twins pass the check as well, and the report has two
findings with one key. -/
theorem keys_of_twinClasses_repeat :
    ∃ analysis, (twinClasses 5).analyze {} = .ok analysis ∧
      ¬ (analysis.report.findings.map Finding.key).Nodup := by
  have accepted : (twinClasses 5).check = .ok () := by decide +kernel
  obtain ⟨analysis, succeeded⟩ := exists_analyze_eq_ok accepted {}
  have notApart : ¬ (twinClasses 5).KeysApart (({} : Config).detector (twinClasses 5)) := by
    rw [detector_default]
    decide +kernel
  exact ⟨analysis, succeeded, mt (nodup_keys_iff_keysApart succeeded).mp notApart⟩

end Program

end Devirt
