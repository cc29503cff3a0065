import Devirt.Proofs.BuilderRuns
import Devirt.Proofs.HierarchyIndex
import Devirt.Proofs.Reordering

/-!
# Programs that differ in the order of their contents

Two programs hold the same up to order when their packages have the same names, parents and
children, and hold the same classes and methods in whatever order. A child may be listed more
often in one of them.

Neither the check nor the walk nor the hierarchy can tell them apart. What a package is, is found
under its name; the walk sorts what it shows by names, and the check has made sure that they do
not repeat; and of two classes of one name in different packages the packages' names decide which
counts.
-/

namespace Devirt

open Detection (Detector)
open Relation

/-- The classes have the same methods, in whatever order. -/
structure LoadedClass.SameUpToOrder (first second : LoadedClass) : Prop where
  info : first.info = second.info
  package : first.package = second.package
  methods : first.methods.Perm second.methods

/-- The packages have the same classes and children, in whatever order. -/
structure Package.SameUpToOrder (first second : Package) : Prop where
  name : first.name = second.name
  parent : first.parent = second.parent
  children : ∀ name, name ∈ first.children ↔ name ∈ second.children
  classes : Reordered LoadedClass.SameUpToOrder first.classes second.classes

/-- The programs have the same packages up to the order of what these hold, and the same further
types. -/
structure Program.SameUpToOrder (first second : Program) : Prop where
  packages : List.Forall₂ Package.SameUpToOrder first.packages second.packages
  types : first.extraTypes = second.extraTypes

namespace LoadedClass.SameUpToOrder

variable {first second : LoadedClass}

/-- Either class may come first. -/
theorem symm (same : first.SameUpToOrder second) : second.SameUpToOrder first :=
  ⟨same.info.symm, same.package.symm, same.methods.symm⟩

/-- The classes have one name. -/
theorem name (same : first.SameUpToOrder second) : first.name = second.name :=
  congrArg TypeInfo.name same.info

/-- If one class holds methods of its own, so does the other. -/
theorem holdsOwn (same : first.SameUpToOrder second) (holdsOwn : first.HoldsOwn) :
    second.HoldsOwn where
  distinct := (same.methods.map _).nodup_iff.mp holdsOwn.distinct
  own := fun method mem => by
    rw [holdsOwn.own method (same.methods.mem_iff.mpr mem), same.name]

end LoadedClass.SameUpToOrder

namespace Package.SameUpToOrder

variable {first second : Package}

/-- Either package may come first. -/
theorem symm (same : first.SameUpToOrder second) : second.SameUpToOrder first where
  name := same.name.symm
  parent := same.parent.symm
  children := fun name => (same.children name).symm
  classes := by
    obtain ⟨between, perm, each⟩ := same.classes.symm
    exact ⟨between, perm, each.imp fun _ _ same => same.symm⟩

/-- If one package holds what is its own, so does the other. -/
theorem holdsOwn (same : first.SameUpToOrder second) (holdsOwn : first.HoldsOwn) :
    second.HoldsOwn where
  distinct := (same.classes.map_perm fun _ _ same => same.name).nodup_iff.mp holdsOwn.distinct
  own := fun loaded mem => by
    obtain ⟨other, has, same'⟩ := same.classes.exists_of_mem mem
    rw [← same'.package, holdsOwn.own other has, same.name]
  classes := fun loaded mem => by
    obtain ⟨other, has, same'⟩ := same.classes.exists_of_mem mem
    exact same'.holdsOwn (holdsOwn.classes other has)

/-- The packages have the same children to go down to. -/
theorem childNames (same : first.SameUpToOrder second) : first.childNames = second.childNames := by
  have left := pairwise_distinctAscending first.children
  have right := pairwise_distinctAscending second.children
  have perm : (distinctAscending first.children).Perm (distinctAscending second.children) := by
    refine (List.perm_ext_iff_of_nodup (left.imp Std.ne_of_lt) (right.imp Std.ne_of_lt)).mpr ?_
    intro name
    rw [mem_distinctAscending, mem_distinctAscending, same.children]
  exact perm.eq_of_pairwise (fun _ _ _ _ lt gt => absurd (Std.lt_trans lt gt) Std.lt_irrefl)
    left right

/-- The packages show the same methods in the same order, if nothing in them has two names. -/
theorem compiledMethods (same : first.SameUpToOrder second) (holdsOwn : first.HoldsOwn) :
    first.compiledMethods = second.compiledMethods := by
  have classes := same.classes.forall₂_sortOn (fun _ _ same => same.name) holdsOwn.distinct
  have own (loaded : LoadedClass) (mem : loaded ∈ sortOn LoadedClass.name first.classes) :
      loaded.HoldsOwn := holdsOwn.classes loaded ((sortOn_perm _ _).mem_iff.mp mem)
  have each (left right : LoadedClass) (same : left.HoldsOwn ∧ left.SameUpToOrder right) :
      sortOn Method.fullName (left.methods.filter (·.isCompiled)) =
        sortOn Method.fullName (right.methods.filter (·.isCompiled)) := by
    apply Reordered.sortOn_eq_of_perm (same.2.methods.filter _)
    exact same.1.distinct.sublist (List.filter_sublist.map _)
  rw [Package.compiledMethods, Package.compiledMethods, List.flatMap_def, List.flatMap_def,
    map_eq_of_forall₂ ((List.forall₂_and_left _ _).mpr ⟨own, classes⟩) each]

/-- The packages have the same class under every name, if no two classes have one name. -/
theorem find?_info (same : first.SameUpToOrder second) (holdsOwn : first.HoldsOwn) (name : String) :
    (first.classes.map (·.info)).find? (·.name == name) =
      (second.classes.map (·.info)).find? (·.name == name) := by
  refine find?_eq_of_perm (same.classes.map_perm fun _ _ same => same.info) ?_ name
  rw [List.map_map]
  exact holdsOwn.distinct

end Package.SameUpToOrder

namespace Program

variable {first second : Program}

/-- The packages are the same up to order. -/
abbrev Counterparts (node : first.Node) (other : second.Node) : Prop :=
  node.val.SameUpToOrder other.val

namespace SameUpToOrder

/-- Either program may come first. -/
theorem symm (same : first.SameUpToOrder second) : second.SameUpToOrder first where
  packages := same.packages.flip.imp fun _ _ same => same.symm
  types := same.types.symm

variable (same : first.SameUpToOrder second)
include same

/-- The packages are the same place by place. -/
theorem forall₂_nodes : List.Forall₂ Counterparts first.nodes second.nodes := by
  have packages := same.packages
  rwa [← first.map_val_nodes, ← second.map_val_nodes, List.forall₂_map_left_iff,
    List.forall₂_map_right_iff] at packages

/-- A package of one program has its counterpart in the other. -/
theorem exists_counterpart (node : first.Node) :
    ∃ other : second.Node, Counterparts node other := by
  obtain ⟨other, _, same⟩ :=
    (Reordered.of_forall₂ same.symm.forall₂_nodes).exists_of_mem (List.mem_attach _ node)
  exact ⟨other, same.symm⟩

/-- Under a name stands the same package. -/
theorem rel_node? (name : String) :
    Option.Rel Counterparts (first.node? name) (second.node? name) := by
  cases found : first.node? name with
  | some node =>
    obtain ⟨other, alike⟩ := same.exists_counterpart node
    rw [node?_eq_some_iff.mpr (alike.name.symm.trans (node?_eq_some_iff.mp found))]
    exact .some alike
  | none =>
    cases found' : second.node? name with
    | none => exact .none
    | some other =>
      obtain ⟨node, alike⟩ := same.symm.exists_counterpart other
      rw [node?_eq_some_iff.mpr (alike.name.symm.trans (node?_eq_some_iff.mp found'))] at found
      cases found

/-- The children of a package are the same, in the same order. -/
theorem forall₂_children {node : first.Node} {other : second.Node}
    (alike : Counterparts node other) :
    List.Forall₂ Counterparts (first.children node) (second.children other) := by
  rw [children, children, alike.childNames]
  exact List.rel_filterMap (R := Eq) (fun name _ equal => equal ▸ same.rel_node? name)
    (List.forall₂_refl _)

/-- The roots are the same, in the same order. -/
theorem forall₂_sortOn_roots :
    List.Forall₂ Counterparts (sortOn (·.val.name) first.roots)
      (sortOn (·.val.name) second.roots) := by
  have roots : List.Forall₂ Counterparts first.roots second.roots :=
    List.rel_filter (fun _ _ alike => by simp only [alike.parent]) same.forall₂_nodes
  refine (Reordered.of_forall₂ roots).forall₂_sortOn (fun _ _ alike => alike.name) ?_
  exact nodup_roots.map fun _ _ => node_eq_of_name_eq

/-- What lies beneath a package lies beneath its counterpart. -/
theorem below {top node : first.Node} (beneath : ReflTransGen first.Lists top node)
    {top' node' : second.Node} (alikeTop : Counterparts top top')
    (alike : Counterparts node node') : ReflTransGen second.Lists top' node' := by
  induction beneath generalizing node' with
  | refl =>
    have equal : top' = node' := node_eq_of_name_eq (alikeTop.name.symm.trans alike.name)
    exact equal ▸ .refl
  | @tail upper lower _ listed ih =>
    obtain ⟨upper', alikeUpper⟩ := same.exists_counterpart upper
    refine (ih alikeUpper).tail ?_
    rw [Lists, ← alike.name]
    exact (alikeUpper.children _).mp listed

/-- If one program is well formed, so is the other. -/
theorem wellFormed (wellFormed : first.WellFormed) : second.WellFormed where
  orderly := fun node => by
    obtain ⟨other, alike⟩ := same.symm.exists_counterpart node
    have orderly := wellFormed.orderly other
    refine ⟨alike.symm.holdsOwn orderly.contents, fun name listed => ?_⟩
    obtain ⟨child, named, declared⟩ := orderly.children name ((alike.children name).mp listed)
    obtain ⟨child', alikeChild⟩ := same.exists_counterpart child
    refine ⟨child', alikeChild.name.symm.trans named, ?_⟩
    rw [Declares, ← alikeChild.parent, alike.name]
    exact declared
  reachable := fun node => by
    obtain ⟨other, alike⟩ := same.symm.exists_counterpart node
    obtain ⟨root, noParent, beneath⟩ := wellFormed.reachable other
    obtain ⟨root', alikeRoot⟩ := same.exists_counterpart root
    exact ⟨root', alikeRoot.parent.symm.trans noParent,
      same.below beneath alikeRoot alike.symm⟩

/-- If one program passes the check, so does the other. -/
theorem check (accepted : first.check = .ok ()) : second.check = .ok () :=
  check_of_wellFormed (same.wellFormed (wellFormed_of_check accepted))

section Walk

variable {m : Type → Type} [Monad m]

omit same in
/-- Doing the same with entries related place by place is the same. -/
theorem forM_eq_of_forall₂ {α β : Type} {R : α → β → Prop} {xs : List α} {ys : List β}
    (each : List.Forall₂ R xs ys) {f : α → m Unit} {g : β → m Unit}
    (same : ∀ x y, R x y → f x = g y) : xs.forM f = ys.forM g := by
  induction each with
  | nil => rfl
  | cons own _ ih =>
    simp only [List.forM_eq_forM] at ih ⊢
    rw [List.forM_cons, List.forM_cons, same _ _ own, ih]

/-- Beneath a package and its counterpart a visitor is shown the same methods in the same order. -/
theorem visitPackage (own : ∀ node : first.Node, node.val.HoldsOwn) (visit : Method → m Unit)
    {path : List String} {node : first.Node} {other : second.Node}
    (alike : Counterparts node other) :
    first.visitPackage visit path node = second.visitPackage visit path other := by
  induction path, node using Program.visitPackage.induct generalizing other with
  | case1 path node onPath =>
    rw [Program.visitPackage, Program.visitPackage, dif_pos onPath, dif_pos (alike.name ▸ onPath)]
  | case2 path node offPath ih =>
    have beneath := forM_eq_of_forall₂ (same.forall₂_children alike) fun _ _ alike => ih _ alike
    rw [Program.visitPackage, Program.visitPackage, dif_neg offPath, dif_neg (alike.name ▸ offPath),
      beneath, alike.name, alike.compiledMethods (own node)]

/-- Every visitor is shown the same methods in the same order. -/
theorem walk (accepted : first.check = .ok ()) (visitor : Visitor m) :
    first.walk visitor = second.walk visitor := by
  have own (node : first.Node) : node.val.HoldsOwn :=
    ((wellFormed_of_check accepted).orderly node).contents
  have left : first.checkFrom first.roots = .ok () := accepted
  have right : second.checkFrom second.roots = .ok () := same.check accepted
  rw [Program.walk, Program.walk, walkFrom, walkFrom, left, right,
    forM_eq_of_forall₂ same.forall₂_sortOn_roots fun _ _ => same.visitPackage own visitor.visit]

end Walk

/-- The programs register the same class or type under every name. -/
theorem find?_types (accepted : first.check = .ok ()) (name : String) :
    (first.classes.map (·.info) ++ first.extraTypes).find? (·.name == name) =
      (second.classes.map (·.info) ++ second.extraTypes).find? (·.name == name) := by
  have own (package : Package) (mem : package ∈ first.packages) : package.HoldsOwn :=
    ((wellFormed_of_check accepted).orderly ⟨package, mem⟩).contents
  have each := map_eq_of_forall₂ ((List.forall₂_and_left _ _).mpr ⟨own, same.packages⟩)
    fun _ _ both => both.2.find?_info both.1 name
  have inPackages (program : Program) : (program.classes.map (·.info)).find? (·.name == name) =
      (program.packages.map fun package =>
        (package.classes.map (·.info)).find? (·.name == name)).findSome? id := by
    rw [classes, List.map_flatMap, List.find?_flatMap, List.findSome?_map, Function.id_comp]
  rw [List.find?_append, List.find?_append, inPackages, inPackages, each, same.types]

/-- The detectors for the programs find the same. -/
theorem find_detector (accepted : first.check = .ok ()) (config : Config) :
    (config.detector first).find = (config.detector second).find := by
  have answers := TypeHierarchy.monomorphism?_ofList_congr (same.find?_types accepted)
  have evidence : (config.detector first).hierarchyEvidence? =
      (config.detector second).hierarchyEvidence? := by
    funext target direct all
    cases asked : config.useHierarchy <;>
      simp [Detector.hierarchyEvidence?, Config.detector, asked, typeHierarchy, answers]
  have markers : (config.detector first).markerEvidence? =
      (config.detector second).markerEvidence? := rfl
  funext method
  simp only [Detector.find_eq_filterMap, Detector.evidenceAt?, evidence, markers]

/-- A run over either program has the same outcome. -/
theorem analyze (accepted : first.check = .ok ()) (config : Config) :
    first.analyze config = second.analyze config := by
  have methods : first.walkedMethods = second.walkedMethods := by
    rw [walkedMethods, walkedMethods, same.walk accepted]
  rw [analyze_of_check_eq_ok accepted, analyze_of_check_eq_ok (same.check accepted)]
  simp only [Detector.report, ReportBuilder.shown, methods, same.find_detector accepted config,
    Config.hasHierarchy_detector]

end SameUpToOrder

end Program

end Devirt
