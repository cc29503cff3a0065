import Devirt.Proofs.StructureCheck

/-!
# The defects that the structure check tells of

A program that is not well formed is refused with an error, and the error names a defect. Here is
said what each error means, without the search that finds it: which class or package holds what
does not belong there or holds it twice, which child or parent is missing, which package lies on a
cycle, and which lies beneath no package without a parent although its own parents lead up to one.
Every error that the check gives is true in this sense.

A program may have several defects. Which of them is told of has no part in this.
-/

namespace Devirt

open Relation

/-- The defect is in the class: it holds a method that names another class as its own, or two
methods of one name at different places. -/
def LoadedClass.Exhibits (loaded : LoadedClass) : StructureError → Prop
  | .orphanMethod method container declared => container = loaded.name ∧
      ∃ held ∈ loaded.methods, held.fullName = method ∧ held.member.className = declared ∧
        declared ≠ container
  | .duplicateMethod method className => className = loaded.name ∧
      ∃ first second, [first, second].Sublist loaded.methods ∧ first.fullName = method ∧
        second.fullName = method
  | _ => False

/-- The defect is in the package: it holds a class that names another package as its own, or two
classes of one name at different places, or the defect is in one of its classes. -/
def Package.Exhibits (package : Package) : StructureError → Prop
  | .orphanClass className container declared => container = package.name ∧
      ∃ held ∈ package.classes, held.name = className ∧ held.package = declared ∧
        declared ≠ container
  | .duplicateClass className name => name = package.name ∧
      ∃ first second, [first, second].Sublist package.classes ∧ first.name = className ∧
        second.name = className
  | defect => ∃ loaded ∈ package.classes, loaded.Exhibits defect

/-- The defect is in the program: in the links between its packages or in one of them. -/
def Program.Exhibits (program : Program) : StructureError → Prop
  | .missingPackage parent child => (∀ node : program.Node, node.val.name ≠ child) ∧
      ∃ lister : program.Node, lister.val.name = parent ∧ child ∈ lister.val.children
  | .parentMismatch package listedUnder declared => declared ≠ some listedUnder ∧
      ∃ lister child : program.Node, lister.val.name = listedUnder ∧ child.val.name = package ∧
        program.Lists lister child ∧ child.val.parent = declared
  | .missingParent package parent => (∀ node : program.Node, node.val.name ≠ parent) ∧
      ∃ node : program.Node, node.val.name = package ∧ node.val.parent = some parent
  | .cyclicPackage name => ∃ node : program.Node, node.val.name = name ∧
      (TransGen program.Lists node node ∨ TransGen program.Declares node node)
  | .unreachablePackage name => ∃ node : program.Node, node.val.name = name ∧
      (∀ root : program.Node, root.val.parent = none → ¬ ReflTransGen program.Lists root node) ∧
      ∃ top : program.Node, ReflTransGen program.Declares node top ∧ top.val.parent = none
  | defect => ∃ node : program.Node, node.val.Exhibits defect

/-- A defect of a class is one of the package that holds it. -/
theorem Package.exhibits_of_loaded {package : Package} {loaded : LoadedClass} {e : StructureError}
    (mem : loaded ∈ package.classes) (inClass : loaded.Exhibits e) : package.Exhibits e := by
  cases e with
  | orphanMethod => exact ⟨loaded, mem, inClass⟩
  | duplicateMethod => exact ⟨loaded, mem, inClass⟩
  | _ => exact inClass.elim

/-- A defect of a package is one of the program. -/
theorem Program.exhibits_of_package {program : Program} (node : program.Node) {e : StructureError}
    (inPackage : node.val.Exhibits e) : program.Exhibits e := by
  cases e with
  | orphanClass => exact ⟨node, inPackage⟩
  | orphanMethod => exact ⟨node, inPackage⟩
  | duplicateClass => exact ⟨node, inPackage⟩
  | duplicateMethod => exact ⟨node, inPackage⟩
  | _ =>
    obtain ⟨_, _, inClass⟩ := inPackage
    exact inClass.elim

/-- Once a member is passed its name counts as seen, and the seen names are still those in front. -/
theorem cons_subset_map_append {α : Type} {name : α → String} {before : List α} {x : α}
    {seen : List String} (known : seen ⊆ before.map name) :
    name x :: seen ⊆ (before ++ [x]).map name := by
  rw [List.map_append]
  exact List.cons_subset.mpr ⟨by simp, List.subset_append_of_subset_left _ known⟩

/-- The check of methods fails with a defect of the class, if the names that count as seen are
those of the methods in front. -/
theorem LoadedClass.exhibits_of_checkMethods {loaded : LoadedClass} {before rest : List Method}
    {seen : List String} {e : StructureError} (whole : loaded.methods = before ++ rest)
    (known : seen ⊆ before.map (·.fullName)) (failed : loaded.checkMethods seen rest = .error e) :
    loaded.Exhibits e := by
  induction rest generalizing before seen with
  | nil => cases failed
  | cons method rest ih =>
    rw [checkMethods] at failed
    split at failed
    · rename_i repeated
      cases failed
      obtain ⟨earlier, mem, same⟩ := List.mem_map.mp (known repeated)
      exact ⟨rfl, earlier, method, whole ▸ pair_sublist_append_cons mem rest, same, rfl⟩
    · split at failed
      · rename_i foreign
        cases failed
        exact ⟨rfl, method, by simp [whole], rfl, rfl, foreign⟩
      · have further : loaded.methods = (before ++ [method]) ++ rest := by simp [whole]
        exact ih further (cons_subset_map_append known) failed

/-- The check of classes fails with a defect of the package, if the names that count as seen are
those of the classes in front. -/
theorem Package.exhibits_of_checkClasses {package : Package} {before rest : List LoadedClass}
    {seen : List String} {e : StructureError} (whole : package.classes = before ++ rest)
    (known : seen ⊆ before.map (·.name)) (failed : package.checkClasses seen rest = .error e) :
    package.Exhibits e := by
  induction rest generalizing before seen with
  | nil => cases failed
  | cons loaded rest ih =>
    rw [checkClasses] at failed
    split at failed
    · rename_i repeated
      cases failed
      obtain ⟨earlier, mem, same⟩ := List.mem_map.mp (known repeated)
      exact ⟨rfl, earlier, loaded, whole ▸ pair_sublist_append_cons mem rest, same, rfl⟩
    · split at failed
      · rename_i foreign
        cases failed
        exact ⟨rfl, loaded, by simp [whole], rfl, rfl, foreign⟩
      · rcases bind_eq_error_iff.mp failed with methods | ⟨_, _, others⟩
        · have inClass : loaded.Exhibits e :=
            LoadedClass.exhibits_of_checkMethods (List.nil_append _).symm (List.nil_subset _)
              methods
          exact exhibits_of_loaded (by simp [whole]) inClass
        · have further : package.classes = (before ++ [loaded]) ++ rest := by simp [whole]
          exact ih further (cons_subset_map_append known) others

namespace Program

variable {program : Program}

/-- A listed child fails because there is none of the name or it does not name its lister. -/
theorem exhibits_of_child {node : program.Node} {name : String} {e : StructureError}
    (listed : name ∈ node.val.children)
    (failed : program.child node.val.name name = .error e) : program.Exhibits e := by
  rw [child] at failed
  split at failed
  · rename_i absent
    cases failed
    exact ⟨node?_eq_none_iff.mp absent, node, rfl, listed⟩
  · rename_i child found
    split at failed
    · cases failed
    · rename_i differs
      cases failed
      have lists : program.Lists node child := by rwa [Lists, node?_eq_some_iff.mp found]
      exact ⟨differs, node, child, rfl, rfl, lists, rfl⟩

/-- The search through a package fails with a defect of the program, if the path holds the names of
packages above it. -/
theorem exhibits_of_checkPackage {path reached : List String} {node : program.Node}
    {e : StructureError}
    (above : ∀ name ∈ path, ∃ upper : program.Node,
      upper.val.name = name ∧ TransGen program.Lists upper node)
    (failed : program.checkPackage path reached node = .error e) : program.Exhibits e := by
  induction path, reached, node using checkPackage.induct with
  | case1 path reached node onPath =>
    rw [checkPackage, dif_pos onPath] at failed
    cases failed
    -- The name on the path is of the package itself, as no two packages have one name.
    obtain ⟨upper, same, cycle⟩ := above _ onPath
    exact ⟨node, rfl, .inl (node_eq_of_name_eq same ▸ cycle)⟩
  | case2 path reached node offPath again =>
    rw [checkPackage, dif_neg offPath, if_pos again] at failed
    cases failed
  | case3 path reached node offPath fresh ih =>
    rw [checkPackage, dif_neg offPath, if_neg fresh] at failed
    rcases bind_eq_error_iff.mp failed with contents | ⟨_, _, beneath⟩
    · have inPackage : node.val.Exhibits e :=
        Package.exhibits_of_checkClasses (List.nil_append _).symm (List.nil_subset _) contents
      exact exhibits_of_package node inPackage
    · obtain ⟨name, mem, before, stopped⟩ := exists_of_foldlM_eq_error beneath
      have listed := mem_distinctAscending.mp mem
      rcases bind_eq_error_iff.mp stopped with missing | ⟨child, found, lower⟩
      · exact exhibits_of_child listed missing
      · have lists : program.Lists node child := by rwa [Lists, (child_eq_ok_iff.mp found).1]
        refine ih before child (fun name onPath => ?_) lower
        rcases List.mem_cons.mp onPath with rfl | onPath
        · exact ⟨node, rfl, .single lists⟩
        · obtain ⟨upper, same, higher⟩ := above name onPath
          exact ⟨upper, same, higher.tail lists⟩

/-- What is told of a package that was not reached is true, if the package followed lies on its
chain of parents and the names that count as seen are those of packages further down the chain. -/
theorem exhibits_explainUnreached {origin node : program.Node} {seen : List String}
    (unreached : ∀ root : program.Node, root.val.parent = none →
      ¬ ReflTransGen program.Lists root origin)
    (chain : ReflTransGen program.Declares origin node)
    (passed : ∀ name ∈ seen, ∃ lower : program.Node,
      lower.val.name = name ∧ TransGen program.Declares lower node) :
    program.Exhibits (program.explainUnreached origin.val.name seen node) := by
  induction seen, node using explainUnreached.induct with
  | case1 seen node top =>
    rw [explainUnreached]
    simp only [top]
    exact ⟨origin, rfl, unreached, node, chain, top⟩
  | case2 seen node parent declared again =>
    rw [explainUnreached]
    simp only [declared, again, dite_true]
    obtain ⟨lower, same, cycle⟩ := passed _ again
    exact ⟨node, rfl, .inr (node_eq_of_name_eq same ▸ cycle)⟩
  | case3 seen node parent declared fresh absent =>
    rw [explainUnreached]
    simp only [declared, fresh, absent, dite_false]
    exact ⟨node?_eq_none_iff.mp absent, node, rfl, declared⟩
  | case4 seen node parent declared fresh next found ih =>
    rw [explainUnreached]
    simp only [declared, fresh, found, dite_false]
    have declares : program.Declares node next := by
      rw [Declares, node?_eq_some_iff.mp found, declared]
    refine ih (chain.tail declares) fun name mem => ?_
    rcases List.mem_cons.mp mem with rfl | mem
    · exact ⟨node, rfl, .single declares⟩
    · obtain ⟨lower, same, further⟩ := passed name mem
      exact ⟨lower, same, further.tail declares⟩

/-- Every error of the structure check is true: the defect it names is in the program. A missing
package is listed and is not there, a package with another parent is listed all the same, what is
told to stand twice stands at two places, what is told to be misplaced says so itself, a missing
parent is named and is not there, a package told to be on a cycle lies on one itself, of child links
or of parent links, and a package told to be unreachable lies beneath no package without a parent,
while its own chain of parents ends at one. -/
theorem check_errors_are_true (program : Program) {e : StructureError}
    (refused : program.check = .error e) : program.Exhibits e := by
  rcases bind_eq_error_iff.mp refused with search | ⟨reached, found, rest⟩
  · obtain ⟨root, _, before, stopped⟩ := exists_of_foldlM_eq_error search
    exact exhibits_of_checkPackage (by simp) stopped
  · have covers := covers_of_foldlM checkPackage_covers found
    split at rest
    · cases rest
    · rename_i origin left
      cases rest
      refine exhibits_explainUnreached (fun root noParent below => ?_) .refl (by simp)
      have missing : origin.val.name ∉ reached := by simpa using List.find?_some left
      exact missing (covers.reaches ((sortOn_perm _ _).mem_iff.mpr (mem_roots.mpr noParent)) below)

/-- Two packages that name each other as parent, and a third that names one of them. -/
def rhoParents : Program where
  packages := [
    { name := "a", parent := some "b" },
    { name := "b", parent := some "c" },
    { name := "c", parent := some "b" }]
  ascending := by decide

/-- The third package leads into the cycle and is the one that is explained, but the error names a
package that lies on the cycle. -/
theorem cycle_of_rhoParents :
    rhoParents.check = .error (.cyclicPackage "b") ∧ rhoParents.Exhibits (.cyclicPackage "b") := by
  have refused : rhoParents.check = .error (.cyclicPackage "b") := by decide +kernel
  exact ⟨refused, check_errors_are_true rhoParents refused⟩

end Program

end Devirt
