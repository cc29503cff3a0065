import Mathlib.Logic.Relation
import Devirt.Program.Walk
import Devirt.Proofs.Ascending

/-!
# Links between packages

A package is known by its name, and the names a package lists as its children are links to
other packages. Nothing makes these links a forest: they may lead nowhere, meet, or close a
cycle. A package is grounded when every descent along child links from it ends.

Where listed children name their lister as parent, links cannot meet: the packages above any
package form one chain. Hence two packages that share something beneath them lie one above the
other, which is what keeps the trees of a well-formed program apart.
-/

namespace Devirt.Program

open Relation

variable {program : Program}

/-- A package lists another as one of its children. -/
def Lists (program : Program) (parent child : program.Node) : Prop :=
  child.val.name ∈ parent.val.children

/-- A package names another as its parent. -/
def Declares (program : Program) (child parent : program.Node) : Prop :=
  child.val.parent = some parent.val.name

/-- Every descent along child links from the package ends. -/
def Grounded (program : Program) (node : program.Node) : Prop :=
  Acc (fun child parent => program.Lists parent child) node

/-- The nodes of a program are its packages. -/
theorem map_val_nodes (program : Program) : program.nodes.map (·.val) = program.packages :=
  List.attach_map_subtype_val program.packages

/-- Looking up a node is looking up its package. -/
theorem map_val_node? (program : Program) (name : String) :
    (program.node? name).map (·.val) = program.packages.find? (·.name == name) := by
  conv_rhs => rw [← program.map_val_nodes, List.find?_map]
  rfl

/-- Packages of one name are one package. -/
theorem node_eq_of_name_eq {a b : program.Node} (same : a.val.name = b.val.name) : a = b := by
  have found (node : program.Node) :
      program.packages.find? (·.name == node.val.name) = some node.val :=
    (find?_eq_some_iff_mem program.ascending).mpr ⟨node.property, rfl⟩
  have := found a
  rw [same, found b] at this
  exact Subtype.ext (Option.some.inj this).symm

/-- A package is what its name is looked up to. -/
theorem node?_eq_some_iff {name : String} {node : program.Node} :
    program.node? name = some node ↔ node.val.name = name := by
  apply Iff.intro
  · intro found
    simpa using List.find?_some found
  · intro same
    subst same
    cases found : program.node? node.val.name with
    | none => simpa using List.find?_eq_none.mp found node (List.mem_attach _ _)
    | some other =>
      have same : other.val.name = node.val.name := by simpa using List.find?_some found
      rw [node_eq_of_name_eq same]

/-- A name that is looked up to nothing is the name of no package. -/
theorem node?_eq_none_iff {name : String} :
    program.node? name = none ↔ ∀ node : program.Node, node.val.name ≠ name := by
  rw [Option.eq_none_iff_forall_ne_some]
  exact forall_congr' fun node => not_congr node?_eq_some_iff

/-- A program holds no package twice. -/
theorem nodup_nodes : program.nodes.Nodup := by
  refine List.nodup_attach.mpr (program.ascending.imp ?_)
  intro a b lt same
  exact String.lt_irrefl _ (same ▸ lt)

/-- A package without a parent is a root. -/
theorem mem_roots {node : program.Node} : node ∈ program.roots ↔ node.val.parent = none := by
  simp [roots, nodes]

/-- The roots are distinct. -/
theorem nodup_roots : program.roots.Nodup := nodup_nodes.filter _

/-- The children of a package are those it lists. -/
theorem mem_children {node child : program.Node} :
    child ∈ program.children node ↔ program.Lists node child := by
  simp only [children, List.mem_filterMap, node?_eq_some_iff, Package.childNames,
    mem_distinctAscending, Lists]
  exact ⟨fun ⟨name, listed, same⟩ => same ▸ listed, fun listed => ⟨_, listed, rfl⟩⟩

/-- The children of a package ascend by name. -/
theorem pairwise_children (node : program.Node) :
    (program.children node).Pairwise (·.val.name < ·.val.name) := by
  have ascending := pairwise_distinctAscending node.val.children
  refine List.Pairwise.filterMap program.node? ?_ ascending
  intro first second lt a ha b hb
  rwa [node?_eq_some_iff.mp ha, node?_eq_some_iff.mp hb]

/-- A child is a child once, however often it is listed. -/
theorem nodup_children (node : program.Node) : (program.children node).Nodup :=
  (nodup_map_of_ascending (pairwise_children node)).of_map

/-- What lies beneath a grounded package is grounded. -/
theorem Grounded.below {top node : program.Node} (grounded : program.Grounded top)
    (below : ReflTransGen program.Lists top node) : program.Grounded node := by
  induction below with
  | refl => exact grounded
  | tail _ listed ih => exact ih.inv listed

/-- A grounded package does not lie beneath itself. -/
theorem Grounded.not_cyclic {node : program.Node} (grounded : program.Grounded node) :
    ¬ TransGen program.Lists node node := by
  induction grounded with
  | intro node _ ih =>
    intro cycle
    obtain ⟨child, listed, back⟩ := TransGen.head'_iff.mp cycle
    exact ih child listed (TransGen.tail' back listed)

/-- A package names at most one parent. -/
theorem parent_unique {child a b : program.Node} (ha : program.Declares child a)
    (hb : program.Declares child b) : a = b :=
  node_eq_of_name_eq (Option.some.inj (ha.symm.trans hb))

/-- Beneath the package every listed child names its lister as parent. -/
def AgreesBelow (program : Program) (top : program.Node) : Prop :=
  ∀ parent child, ReflTransGen program.Lists top parent → program.Lists parent child →
    program.Declares child parent

/-- Agreement is inherited by what lies beneath. -/
theorem AgreesBelow.below {top node : program.Node} (agrees : program.AgreesBelow top)
    (below : ReflTransGen program.Lists top node) : program.AgreesBelow node :=
  fun parent child reach listed => agrees parent child (below.trans reach) listed

/-- Packages that share something beneath them lie one above the other. -/
theorem below_or_below {a b shared : program.Node} (agreesA : program.AgreesBelow a)
    (agreesB : program.AgreesBelow b) (fromA : ReflTransGen program.Lists a shared)
    (fromB : ReflTransGen program.Lists b shared) :
    ReflTransGen program.Lists a b ∨ ReflTransGen program.Lists b a := by
  induction fromA with
  | refl => exact .inr fromB
  | @tail upper lower toUpper listed ih =>
    rcases ReflTransGen.cases_tail fromB with same | ⟨other, toOther, listedByOther⟩
    · exact .inl (same ▸ toUpper.tail listed)
    · have same : upper = other :=
        parent_unique (agreesA upper lower toUpper listed)
          (agreesB other lower toOther listedByOther)
      exact ih (same ▸ toOther)

/-- Packages neither of which lies properly beneath the other share nothing beneath them. -/
theorem eq_of_shared_below {a b shared : program.Node} (agreesA : program.AgreesBelow a)
    (agreesB : program.AgreesBelow b) (notAB : ¬ TransGen program.Lists a b)
    (notBA : ¬ TransGen program.Lists b a) (fromA : ReflTransGen program.Lists a shared)
    (fromB : ReflTransGen program.Lists b shared) : a = b := by
  rcases below_or_below agreesA agreesB fromA fromB with down | up
  · exact ((reflTransGen_iff_eq_or_transGen.mp down).resolve_right notAB).symm
  · exact (reflTransGen_iff_eq_or_transGen.mp up).resolve_right notBA

/-- A package without a parent lies properly beneath nothing that agrees with its children. -/
theorem not_transGen_of_parent_eq_none {top root : program.Node} (agrees : program.AgreesBelow top)
    (noParent : root.val.parent = none) : ¬ TransGen program.Lists top root := by
  intro above
  obtain ⟨parent, toParent, listed⟩ := TransGen.tail'_iff.mp above
  have declared := agrees parent root toParent listed
  simp [Declares, noParent] at declared

/-- No child of a grounded package lies properly beneath another. -/
theorem not_transGen_of_siblings {node a b : program.Node} (agrees : program.AgreesBelow node)
    (grounded : program.Grounded node) (listsA : program.Lists node a)
    (listsB : program.Lists node b) : ¬ TransGen program.Lists a b := by
  intro above
  obtain ⟨parent, toParent, listed⟩ := TransGen.tail'_iff.mp above
  have declared := agrees parent b ((ReflTransGen.single listsA).trans toParent) listed
  have same : parent = node := parent_unique declared (agrees node b .refl listsB)
  subst same
  exact grounded.not_cyclic (TransGen.head' listsA toParent)

end Devirt.Program
