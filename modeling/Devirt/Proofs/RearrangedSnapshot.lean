import Devirt.Proofs.Loading
import Devirt.Proofs.RearrangedProgram

/-!
# The order of a snapshot's entries

A snapshot hands over packages, their children, their classes and the methods of these as lists.
The order of these lists means nothing: snapshots that differ in it alone are loaded or refused
alike, and runs over what they are loaded as come to the same end. The order of call sites and of
instructions does have a meaning and is not touched, and so has that of the further types. Which
of several faults is told may depend on the order.
-/

namespace Devirt.Snapshot

open Detection (Detector)

/-- The classes have the same methods, in whatever order. -/
structure ClassEntry.SameUpToOrder (first second : ClassEntry) : Prop where
  info : first.info = second.info
  package : first.package = second.package
  methods : first.methods.Perm second.methods

/-- The packages have the same classes and children, in whatever order. A child may be listed more
often in one of them. -/
structure PackageEntry.SameUpToOrder (first second : PackageEntry) : Prop where
  name : first.name = second.name
  parent : first.parent = second.parent
  children : ∀ name, name ∈ first.children ↔ name ∈ second.children
  classes : Reordered ClassEntry.SameUpToOrder first.classes second.classes

/-- The snapshots have the same packages, in whatever order, and the same further types. -/
structure SameUpToOrder (first second : Snapshot) : Prop where
  packages : Reordered PackageEntry.SameUpToOrder first.packages second.packages
  types : first.types = second.types

/-- Classes that are the same up to order are loaded as such. -/
theorem ClassEntry.SameUpToOrder.loaded {first second : ClassEntry} {class₁ class₂ : LoadedClass}
    (same : first.SameUpToOrder second) (loads₁ : first.LoadsAs class₁)
    (loads₂ : second.LoadsAs class₂) : class₁.SameUpToOrder class₂ where
  info := by rw [loads₁.info, loads₂.info, same.info]
  package := by rw [loads₁.package, loads₂.package, same.package]
  methods := by
    have entries : Reordered Eq first.methods second.methods :=
      ⟨second.methods, same.methods, List.forall₂_refl _⟩
    obtain ⟨between, perm, equal⟩ := entries.comp loads₁.methods loads₂.methods
      (Q := Eq) fun _ _ _ _ same loads₁ loads₂ => (same ▸ loads₁).unique loads₂
    rw [List.forall₂_eq_eq_eq] at equal
    exact equal ▸ perm

/-- Packages that are the same up to order are loaded as such. -/
theorem PackageEntry.SameUpToOrder.loaded {first second : PackageEntry}
    {package₁ package₂ : Package} (same : first.SameUpToOrder second)
    (loads₁ : first.LoadsAs package₁) (loads₂ : second.LoadsAs package₂) :
    package₁.SameUpToOrder package₂ where
  name := by rw [loads₁.name, loads₂.name, same.name]
  parent := by rw [loads₁.parent, loads₂.parent, same.parent]
  children := fun name => by rw [loads₁.children, loads₂.children, same.children]
  classes := same.classes.comp loads₁.classes loads₂.classes fun _ _ _ _ => (·.loaded)

namespace SameUpToOrder

variable {first second : Snapshot}

/-- Either snapshot may come first. -/
theorem symm (same : first.SameUpToOrder second) : second.SameUpToOrder first where
  packages := by
    obtain ⟨between, perm, each⟩ := same.packages.symm
    refine ⟨between, perm, each.imp fun _ _ same => ?_⟩
    obtain ⟨between, perm, each⟩ := same.classes.symm
    exact ⟨same.name.symm, same.parent.symm, fun name => (same.children name).symm, between, perm,
      each.imp fun _ _ same => ⟨same.info.symm, same.package.symm, same.methods.symm⟩⟩
  types := same.types.symm

/-- What the snapshots are loaded as is the same up to order. -/
theorem loaded (same : first.SameUpToOrder second) {program other : Program}
    (loads₁ : first.LoadsAs program) (loads₂ : second.LoadsAs other) :
    program.SameUpToOrder other where
  packages := by
    obtain ⟨list₁, each₁, perm₁⟩ := loads₁.packages
    obtain ⟨list₂, each₂, perm₂⟩ := loads₂.packages
    have packages : Reordered Package.SameUpToOrder list₁ list₂ :=
      same.packages.comp each₁ each₂ fun _ _ _ _ => (·.loaded)
    exact (packages.perm perm₁ perm₂).forall₂_of_ascending (fun _ _ same => same.name)
      program.ascending other.ascending
  types := by rw [loads₁.types, loads₂.types, same.types]

/-- The methods of one snapshot are methods of the other. -/
theorem mem_methods (same : first.SameUpToOrder second) {method : MethodEntry}
    (mem : method ∈ second.methods) : method ∈ first.methods := by
  simp only [methods, List.mem_flatMap] at mem ⊢
  obtain ⟨loaded, ⟨entry, held, has⟩, stands⟩ := mem
  obtain ⟨entry', held', alike⟩ := same.packages.exists_of_mem held
  obtain ⟨loaded', has', alike'⟩ := alike.classes.exists_of_mem has
  exact ⟨loaded', ⟨entry', held', has'⟩, alike'.methods.mem_iff.mpr stands⟩

/-- If one snapshot can be loaded, so can the other. -/
theorem loadable (same : first.SameUpToOrder second) (loadable : first.Loadable) :
    second.Loadable where
  mnemonics := fun method mem => loadable.mnemonics method (same.mem_methods mem)
  assemblies := fun method mem => loadable.assemblies method (same.mem_methods mem)
  names := (same.packages.map_perm fun _ _ same => same.name).nodup_iff.mp loadable.names

/-- If one snapshot is loaded, so is the other, as the same up to order. -/
theorem exists_load_eq_ok (same : first.SameUpToOrder second) {program : Program}
    (loaded : first.load = .ok program) :
    ∃ other, second.load = .ok other ∧ program.SameUpToOrder other := by
  have loadable := faults_eq_nil_iff.mp (first.load_reports.exists_eq_ok_iff.mp ⟨program, loaded⟩)
  obtain ⟨other, loaded'⟩ := second.load_reports.exists_eq_ok_iff.mpr
    (faults_eq_nil_iff.mpr (same.loadable loadable))
  exact ⟨other, loaded', same.loaded (first.load_reports.good_of_eq_ok loaded)
    (second.load_reports.good_of_eq_ok loaded')⟩

/-- If one snapshot is loaded and analyzed, the other is with the same outcome. -/
theorem exists_analyze_eq_ok (same : first.SameUpToOrder second) {config : Config}
    {analysis : Analysis}
    (succeeds : ∃ program, first.load = .ok program ∧ program.analyze config = .ok analysis) :
    ∃ program, second.load = .ok program ∧ program.analyze config = .ok analysis := by
  obtain ⟨program, loaded, analyzed⟩ := succeeds
  obtain ⟨other, loaded', alike⟩ := same.exists_load_eq_ok loaded
  exact ⟨other, loaded', alike.analyze (Program.analyze_eq_ok analyzed).1 config ▸ analyzed⟩

end SameUpToOrder

/-- Snapshots that differ in the order of packages, children, classes and methods alone are loaded
or refused alike. With every configuration a run over one has an outcome exactly when a run over
the other has, and then it is the same outcome. A walk of what they are loaded as shows every
visitor the same methods in the same sequence. -/
theorem analysis_ignores_order (first second : Snapshot) (same : first.SameUpToOrder second) :
    ((∃ program, first.load = .ok program) ↔ ∃ program, second.load = .ok program) ∧
      (∀ config analysis,
        (∃ program, first.load = .ok program ∧ program.analyze config = .ok analysis) ↔
          ∃ program, second.load = .ok program ∧ program.analyze config = .ok analysis) ∧
      ∀ program other, first.load = .ok program → second.load = .ok other →
        (program.check = .ok () ↔ other.check = .ok ()) ∧
        (program.check = .ok () → program.walkedMethods = other.walkedMethods ∧
          ∀ (m : Type → Type) [Monad m] (visitor : Visitor m),
            program.walk visitor = other.walk visitor) := by
  refine ⟨⟨fun loaded => ?_, fun loaded => ?_⟩, fun config analysis =>
    ⟨same.exists_analyze_eq_ok, same.symm.exists_analyze_eq_ok⟩,
    fun program other loaded loaded' => ?_⟩
  · obtain ⟨other, loaded', _⟩ := same.exists_load_eq_ok loaded.choose_spec
    exact ⟨other, loaded'⟩
  · obtain ⟨other, loaded', _⟩ := same.symm.exists_load_eq_ok loaded.choose_spec
    exact ⟨other, loaded'⟩
  · have alike := same.loaded (first.load_reports.good_of_eq_ok loaded)
      (second.load_reports.good_of_eq_ok loaded')
    refine ⟨⟨alike.check, alike.symm.check⟩, fun accepted => ⟨?_, fun m _ visitor => ?_⟩⟩
    · rw [Program.walkedMethods, Program.walkedMethods, alike.walk accepted]
    · exact alike.walk accepted visitor

/-- A method of one instruction, which is emitted for a call of a method of the circle. -/
def oneLiner (className name : String) : MethodEntry where
  member := ⟨className, name, "()V"⟩
  callSites := [⟨5, .virtual, ⟨"Circle", "draw", "()V"⟩⟩]
  instructions := [{ label := some "@5", address := 16, mnemonic := "call" }]

/-- Two packages. The child holds two classes, one of them with two methods and the other one
final. -/
def shapes : Snapshot where
  packages := [
    { name := "org", children := ["org.example"] },
    { name := "org.example", parent := some "org",
      classes := [
        { info := { name := "Shape" }, package := "org.example",
          methods := [oneLiner "Shape" "area", oneLiner "Shape" "id"] },
        { info := { name := "Circle", superclass := some "Shape", isFinal := true }
          package := "org.example" }] }]

/-- The same with every list turned round, and the child listed twice. -/
def shapesTurned : Snapshot where
  packages := [
    { name := "org.example", parent := some "org",
      classes := [
        { info := { name := "Circle", superclass := some "Shape", isFinal := true }
          package := "org.example" },
        { info := { name := "Shape" }, package := "org.example",
          methods := [oneLiner "Shape" "id", oneLiner "Shape" "area"] }] },
    { name := "org", children := ["org.example", "org.example"] }]

/-- Turned round, the packages are loaded and analyzed with the same outcome. With the hierarchy
both calls are found. -/
theorem analysis_of_shapesTurned :
    shapes.SameUpToOrder shapesTurned ∧ ∃ analysis,
      (∃ program, shapes.load = .ok program ∧ program.analyze ⟨[], true⟩ = .ok analysis) ∧
        (∃ program, shapesTurned.load = .ok program ∧
          program.analyze ⟨[], true⟩ = .ok analysis) ∧
        analysis.report.size = 2 := by
  have same : shapes.SameUpToOrder shapesTurned := by
    refine ⟨⟨_, List.Perm.swap _ _ _, .cons ?_ (.cons ?_ .nil)⟩, rfl⟩
    · refine ⟨rfl, rfl, fun _ => Iff.rfl, _, List.Perm.swap _ _ _, .cons ?_ (.cons ?_ .nil)⟩
      · exact ⟨rfl, rfl, List.Perm.nil⟩
      · exact ⟨rfl, rfl, List.Perm.swap _ _ _⟩
    · exact ⟨rfl, rfl, by simp, _, List.Perm.nil, .nil⟩
  have accepted : ∃ program, shapes.load = .ok program ∧ program.check = .ok () ∧
      (program.compiledMethods.flatMap ((⟨[], true⟩ : Config).detector program).find).length = 2 :=
    ⟨_, rfl, by decide +kernel, by decide +kernel⟩
  obtain ⟨program, loaded, accepted, found⟩ := accepted
  have succeeded := Program.analyze_of_check_eq_ok accepted ⟨[], true⟩
  have both := ((analysis_ignores_order _ _ same).2.1 ⟨[], true⟩ _).mp ⟨program, loaded, succeeded⟩
  refine ⟨same, _, ⟨program, loaded, succeeded⟩, both, ?_⟩
  rw [← found, Detector.report, Report.size_ofFindings]
  exact ((Program.walkedMethods_perm accepted).flatMap_right _).length_eq

end Devirt.Snapshot
