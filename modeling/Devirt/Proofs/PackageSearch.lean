import Devirt.Proofs.Outcome
import Devirt.Proofs.WellFormed

/-!
# The search through the packages

The check of a program's structure is a search from the roots. What a successful search from
some sources has done is said by `Covers`: it took in all that lies beneath them, every package
it took in is in order, and beneath each of them the links end. This holds of one package
because it holds of its children, and the order of the search plays no part in it.

Conversely, no step of the search fails when every package is in order, no links close a cycle
and the path holds only packages above the one at hand.
-/

namespace Devirt.Program

open Relation

variable {program : Program}

/-- A listed child passes if it is the package of the name and names its lister as parent. -/
theorem child_eq_ok_iff {parent name : String} {node : program.Node} :
    program.child parent name = .ok node ↔
      node.val.name = name ∧ node.val.parent = some parent := by
  simp only [child]
  cases found : program.node? name with
  | none =>
    simp [node?_eq_none_iff.mp found node]
  | some other =>
    have named := node?_eq_some_iff.mp found
    by_cases declared : other.val.parent = some parent
    · simp only [declared, if_true, Except.ok.injEq]
      apply Iff.intro
      · intro same
        exact same ▸ ⟨named, declared⟩
      · intro parts
        obtain ⟨same, _⟩ := parts
        exact node_eq_of_name_eq (named.trans same.symm)
    · simp only [declared, if_false, reduceCtorEq, false_iff, not_and]
      intro same
      rwa [← node_eq_of_name_eq (named.trans same.symm)]

/-- What a successful search from the sources does to the reached names. The last clause speaks
of the packages on the path: they are reached before the links beneath them are known to end. -/
structure Covers (program : Program) (path : List String) (sources : List program.Node)
    (before after : List String) : Prop where
  offPath : ∀ source ∈ sources, source.val.name ∉ path
  grows : before ⊆ after
  entered : ∀ source ∈ sources, source.val.name ∈ after
  taken : ∀ node : program.Node, node.val.name ∈ after → node.val.name ∉ before →
    program.Orderly node ∧ (∀ child, program.Lists node child → child.val.name ∈ after) ∧
      ∃ source ∈ sources, ReflTransGen program.Lists source node
  grounded : (∀ node : program.Node, node.val.name ∈ before →
      node.val.name ∈ path ∨ program.Grounded node) →
    ∀ node : program.Node, node.val.name ∈ after → node.val.name ∈ path ∨ program.Grounded node

namespace Covers

variable {path before middle after : List String}

/-- Without sources nothing is reached. -/
theorem nil : program.Covers path [] before before where
  offPath := by simp
  grows := List.Subset.refl _
  entered := by simp
  taken := fun _ reached fresh => absurd reached fresh
  grounded := id

/-- Two searches one after the other are a search from the sources of both. -/
theorem append {first second : List program.Node} (one : program.Covers path first before middle)
    (two : program.Covers path second middle after) :
    program.Covers path (first ++ second) before after where
  offPath := fun source mem =>
    (List.mem_append.mp mem).elim (one.offPath source) (two.offPath source)
  grows := List.Subset.trans one.grows two.grows
  entered := fun source mem =>
    (List.mem_append.mp mem).elim (fun mem => two.grows (one.entered source mem))
      (two.entered source)
  taken := fun node reached fresh => by
    by_cases early : node.val.name ∈ middle
    · obtain ⟨orderly, closed, source, mem, below⟩ := one.taken node early fresh
      exact ⟨orderly, fun child listed => two.grows (closed child listed), source,
        List.mem_append_left _ mem, below⟩
    · obtain ⟨orderly, closed, source, mem, below⟩ := two.taken node reached early
      exact ⟨orderly, closed, source, List.mem_append_right _ mem, below⟩
  grounded := fun start => two.grounded (one.grounded start)

/-- A package that was reached before needs no second search. -/
theorem again {node : program.Node} (offPath : node.val.name ∉ path)
    (reached : node.val.name ∈ before) : program.Covers path [node] before before where
  offPath := by simpa using offPath
  grows := List.Subset.refl _
  entered := by simpa using reached
  taken := fun _ reached fresh => absurd reached fresh
  grounded := id

/-- A search from all children of an orderly package is one from the package itself. -/
theorem enter {node : program.Node} (offPath : node.val.name ∉ path)
    (orderly : program.Orderly node)
    (beneath : program.Covers (node.val.name :: path) (program.children node)
      (node.val.name :: before) after) :
    program.Covers path [node] before after where
  offPath := by simpa using offPath
  grows := fun _ mem => beneath.grows (List.mem_cons_of_mem _ mem)
  entered := by simpa using beneath.grows List.mem_cons_self
  taken := fun other reached fresh => by
    have closed (child : program.Node) (listed : program.Lists node child) :
        child.val.name ∈ after := beneath.entered child (mem_children.mpr listed)
    by_cases same : other.val.name = node.val.name
    · obtain rfl := node_eq_of_name_eq same
      exact ⟨orderly, closed, other, List.mem_singleton_self _, .refl⟩
    · obtain ⟨inOrder, closed, child, mem, below⟩ :=
        beneath.taken other reached (by simp [same, fresh])
      exact ⟨inOrder, closed, node, List.mem_singleton_self _, .head (mem_children.mp mem) below⟩
  grounded := fun start => by
    have onPathOrGrounded := beneath.grounded fun other reached => by
      rcases List.mem_cons.mp reached with same | reached
      · exact .inl (same ▸ List.mem_cons_self)
      · exact (start other reached).imp_left (List.mem_cons_of_mem _)
    -- The children are off the extended path, so the links beneath them end, hence beneath `node`.
    have ends : program.Grounded node := .intro _ fun child listed =>
      have child_mem := mem_children.mpr listed
      (onPathOrGrounded child (beneath.entered child child_mem)).resolve_left
        (beneath.offPath child child_mem)
    intro other reached
    rcases onPathOrGrounded other reached with onPath | grounded
    · rcases List.mem_cons.mp onPath with same | onPath
      · exact .inr (node_eq_of_name_eq same ▸ ends)
      · exact .inl onPath
    · exact .inr grounded

/-- A search that starts afresh reaches all that lies beneath its sources. -/
theorem reaches {sources : List program.Node} (covers : program.Covers path sources [] after)
    {source node : program.Node} (mem : source ∈ sources)
    (below : ReflTransGen program.Lists source node) : node.val.name ∈ after := by
  induction below with
  | refl => exact covers.entered source mem
  | tail _ listed ih => exact (covers.taken _ ih List.not_mem_nil).2.1 _ listed

end Covers

/-- Passing from name to name is looking up the children of all names, which must name the lister
as parent, and passing from child to child. -/
theorem foldlM_child_eq_ok_iff {lister : String} {names : List String}
    {search : List String → program.Node → Except StructureError (List String)}
    {before after : List String} :
    names.foldlM (fun reached name => do search reached (← program.child lister name)) before =
        .ok after ↔
      ∃ children : List program.Node, children.map (·.val.name) = names ∧
        (∀ child ∈ children, child.val.parent = some lister) ∧
        children.foldlM search before = .ok after := by
  induction names generalizing before with
  | nil =>
    rw [foldlM_nil_eq_ok_iff]
    apply Iff.intro
    · intro same
      exact ⟨[], rfl, by simp, same ▸ rfl⟩
    · intro parts
      obtain ⟨children, names, _, found⟩ := parts
      rw [List.map_eq_nil_iff.mp names] at found
      exact foldlM_nil_eq_ok_iff.mp found
  | cons name rest ih =>
    simp only [foldlM_cons_eq_ok_iff, bind_eq_ok_iff]
    apply Iff.intro
    · intro parts
      obtain ⟨middle, ⟨child, first, step⟩, passed⟩ := parts
      obtain ⟨named, declared⟩ := child_eq_ok_iff.mp first
      obtain ⟨children, names, parents, found⟩ := ih.mp passed
      exact ⟨child :: children, by rw [List.map_cons, named, names],
        List.forall_mem_cons.mpr ⟨declared, parents⟩,
        foldlM_cons_eq_ok_iff.mpr ⟨middle, step, found⟩⟩
    · intro parts
      obtain ⟨children, names, parents, found⟩ := parts
      cases children with
      | nil => cases names
      | cons child children =>
        obtain ⟨named, names⟩ := List.cons.inj names
        obtain ⟨declared, parents⟩ := List.forall_mem_cons.mp parents
        obtain ⟨middle, step, found⟩ := foldlM_cons_eq_ok_iff.mp found
        exact ⟨middle, ⟨child, child_eq_ok_iff.mpr ⟨named, declared⟩, step⟩,
          ih.mpr ⟨children, names, parents, found⟩⟩

/-- The children of a package are the packages of its child names. -/
theorem eq_children_of_map_name {node : program.Node} {children : List program.Node}
    (names : children.map (·.val.name) = node.val.childNames) :
    children = program.children node := by
  have lookup : program.node? ∘ (fun child : program.Node => child.val.name) = some := by
    funext child
    exact node?_eq_some_iff.mpr rfl
  rw [Program.children, ← names, List.filterMap_map, lookup, List.filterMap_some]

/-- The children of an orderly package have the names it lists. -/
theorem Orderly.map_name_children {node : program.Node} (orderly : program.Orderly node) :
    (program.children node).map (·.val.name) = node.val.childNames := by
  have each (name : String) (mem : name ∈ node.val.childNames) :
      (program.node? name).map (·.val.name) = some name := by
    obtain ⟨child, named, _⟩ := orderly.children name (mem_distinctAscending.mp mem)
    rw [node?_eq_some_iff.mpr named, Option.map_some, named]
  rw [Program.children, List.map_filterMap, List.filterMap_congr each, List.filterMap_some]

/-- What one step of the search asks: the package is in order, and the search passes through its
children, with the package on the path and reached. -/
theorem checkPackage_eq_ok_iff {path before after : List String} {node : program.Node}
    (offPath : node.val.name ∉ path) (fresh : node.val.name ∉ before) :
    program.checkPackage path before node = .ok after ↔
      program.Orderly node ∧
        (program.children node).foldlM (program.checkPackage (node.val.name :: path))
          (node.val.name :: before) = .ok after := by
  rw [checkPackage, dif_neg offPath, if_neg fresh, bind_eq_ok_iff]
  apply Iff.intro
  · intro parts
    obtain ⟨_, contents, passed⟩ := parts
    obtain ⟨children, names, parents, found⟩ := foldlM_child_eq_ok_iff.mp passed
    refine ⟨⟨node.val.check_eq_ok_iff.mp contents, ?_⟩, eq_children_of_map_name names ▸ found⟩
    intro name listed
    have mem : name ∈ children.map (·.val.name) := names ▸ mem_distinctAscending.mpr listed
    obtain ⟨child, child_mem, rfl⟩ := List.mem_map.mp mem
    exact ⟨child, rfl, parents child child_mem⟩
  · intro parts
    obtain ⟨orderly, found⟩ := parts
    exact ⟨(), node.val.check_eq_ok_iff.mpr orderly.contents, foldlM_child_eq_ok_iff.mpr
      ⟨program.children node, orderly.map_name_children,
        fun child mem => orderly.declares (mem_children.mp mem), found⟩⟩

/-- A search that passes from source to source covers them all. -/
theorem covers_of_foldlM {path : List String}
    (each : ∀ {before after : List String} {node : program.Node},
      program.checkPackage path before node = .ok after → program.Covers path [node] before after)
    {sources : List program.Node} {before after : List String}
    (passed : sources.foldlM (program.checkPackage path) before = .ok after) :
    program.Covers path sources before after := by
  induction sources generalizing before with
  | nil =>
    obtain rfl := foldlM_nil_eq_ok_iff.mp passed
    exact .nil
  | cons source rest ih =>
    obtain ⟨middle, first, later⟩ := foldlM_cons_eq_ok_iff.mp passed
    exact (each first).append (ih later)

/-- A successful search from a package covers it. -/
theorem checkPackage_covers {path before after : List String} {node : program.Node}
    (passed : program.checkPackage path before node = .ok after) :
    program.Covers path [node] before after := by
  induction path, before, node using checkPackage.induct generalizing after with
  | case1 path before node onPath =>
    rw [checkPackage, dif_pos onPath] at passed
    cases passed
  | case2 path before node offPath reached =>
    rw [checkPackage, dif_neg offPath, if_pos reached] at passed
    cases passed
    exact .again offPath reached
  | case3 path before node offPath fresh ih =>
    obtain ⟨orderly, found⟩ := (checkPackage_eq_ok_iff offPath fresh).mp passed
    exact .enter offPath orderly (covers_of_foldlM (ih _ _) found)

/-- Where all packages are in order and no links close a cycle, the search succeeds from every
package whose path holds only packages above it. -/
theorem exists_checkPackage_eq_ok (orderly : ∀ node, program.Orderly node)
    (acyclic : ∀ node, ¬ TransGen program.Lists node node) {path : List String}
    {node : program.Node}
    (above : ∀ name ∈ path, ∃ upper : program.Node,
      upper.val.name = name ∧ TransGen program.Lists upper node) (before : List String) :
    ∃ after, program.checkPackage path before node = .ok after := by
  induction path, before, node using checkPackage.induct with
  | case1 path before node onPath =>
    obtain ⟨upper, same, cycle⟩ := above _ onPath
    exact absurd (node_eq_of_name_eq same ▸ cycle) (acyclic node)
  | case2 path before node offPath reached =>
    exact ⟨before, by rw [checkPackage, dif_neg offPath, if_pos reached]⟩
  | case3 path before node offPath fresh ih =>
    have total (child : program.Node) (mem : child ∈ program.children node)
        (start : List String) :
        ∃ next, program.checkPackage (node.val.name :: path) start child = .ok next := by
      have listed := mem_children.mp mem
      refine ih start child fun name onPath => ?_
      rcases List.mem_cons.mp onPath with rfl | onPath
      · exact ⟨node, rfl, .single listed⟩
      · obtain ⟨upper, same, higher⟩ := above name onPath
        exact ⟨upper, same, higher.tail listed⟩
    obtain ⟨after, found⟩ := exists_foldlM_eq_ok total (node.val.name :: before)
    exact ⟨after, (checkPackage_eq_ok_iff offPath fresh).mpr ⟨orderly node, found⟩⟩

end Devirt.Program
