import Mathlib.Algebra.Order.Ring.Nat
import Mathlib.Data.List.Infix
import Devirt.Proofs.Loading
import Devirt.Proofs.NameOrder
import Devirt.Proofs.PackageLinks

/-!
# What a program holds after any changes

Packages can be put into a program and types made known to it, in any order, whether the program
was empty or loaded from a snapshot. Of the packages of one name the first is held, as it was put
in, and the later ones are refused. A refusal leaves no trace, not even for what is done behind it.

Everything else that a program tells is read off the packages it holds: its roots, the numbers of
classes and methods, and the methods whose names have a text in them.
-/

namespace Devirt

namespace Program

/-- What can be done to a program. -/
inductive Change
  | insert (package : Package)
  | addType (info : TypeInfo)

namespace Change

/-- The answer to the change, and the program after it. -/
def apply (program : Program) : Change → Except DuplicatePackage Unit × Program
  | insert package =>
    match program.insert package with
    | .error duplicate => (.error duplicate, program)
    | .ok next => (.ok (), next)
  | addType info => (.ok (), program.addType info)

/-- The package that is to be put in. -/
def package? : Change → Option Package
  | insert package => some package
  | addType _ => none

/-- The type that is to be made known. -/
def type? : Change → Option TypeInfo
  | insert _ => none
  | addType info => some info

end Change

/-- The program after the changes, one after the other. -/
def run (program : Program) (changes : List Change) : Program :=
  changes.foldl (fun program change => (change.apply program).2) program

/-- Of the packages, put in one after the other, the program holds the first of each name, and it
knows all of the types. -/
structure Keeps (program : Program) (packages : List Package) (types : List TypeInfo) : Prop where
  named : ∀ name node, program.node? name = some node ↔ node.val.name = name
  found : ∀ name, (program.node? name).map (·.val) = packages.find? (·.name == name)
  held : ∀ package, package ∈ program.packages ↔
    packages.find? (·.name == package.name) = some package
  ascending : program.packages.Pairwise fun first second =>
    Text.utf8 first.name < Text.utf8 second.name
  roots : program.roots.map (·.val) = program.packages.filter (·.parent.isNone)
  classes : program.classes.length = (program.packages.map (·.classes.length)).sum
  methods : program.methods.length =
    (program.packages.map fun package => (package.classes.map (·.methods.length)).sum).sum
  types : program.extraTypes = types

/-- The methods are those whose fully qualified name has the text in it, each as often as the
program holds it. They ascend by that name, and methods of one name are in the order of the program,
which goes by the names of the packages and then by their lists. -/
structure Finds (program : Program) (text : String) (found : List Method) : Prop where
  perm : found.Perm (program.methods.filter fun method => text.toList <:+: method.fullName.toList)
  ascending : found.Pairwise fun first second =>
    Text.utf8 first.fullName ≤ Text.utf8 second.fullName
  ties : ∀ name, text.toList <:+: name.toList →
    found.filter (·.fullName == name) = program.methods.filter (·.fullName == name)

section Insertion

variable {program : Program} {package : Package}

/-- A package whose name is taken is refused, and the program stays as it is. -/
theorem apply_insert_of_taken (taken : package.name ∈ program.packages.map (·.name)) :
    (Change.insert package).apply program = (.error ⟨package.name⟩, program) := by
  rw [Change.apply, Program.insert, if_pos (Snapshot.hasPackage_iff.mpr taken)]

/-- Any other package is put in its place. -/
theorem apply_insert_of_fresh (fresh : package.name ∉ program.packages.map (·.name)) :
    ((Change.insert package).apply program).1 = .ok () ∧
      ((Change.insert package).apply program).2.packages =
        insertAscending Package.name (fun older _ => older) package program.packages ∧
      ((Change.insert package).apply program).2.extraTypes = program.extraTypes := by
  rw [Change.apply, Program.insert, if_neg (mt Snapshot.hasPackage_iff.mp fresh)]
  exact ⟨rfl, rfl, rfl⟩

/-- The answer to a package tells whether its name was taken. -/
theorem fst_apply_insert (program : Program) (package : Package) :
    ((Change.insert package).apply program).1 =
      if package.name ∈ program.packages.map (·.name) then .error ⟨package.name⟩ else .ok () := by
  split_ifs with taken
  · exact congrArg Prod.fst (apply_insert_of_taken taken)
  · exact (apply_insert_of_fresh taken).1

/-- A change puts its package behind those that the program holds: under a name the older one is
found. -/
theorem find?_apply (change : Change) (program : Program) (name : String) :
    (change.apply program).2.packages.find? (·.name == name) =
      (program.packages ++ change.package?.toList).find? (·.name == name) := by
  cases change with
  | addType info => simp [Change.apply, addType, Change.package?]
  | insert package =>
    rw [List.find?_append, Change.package?, Option.toList_some]
    -- A refused package is not found either, since an older one stands in front of it.
    by_cases taken : package.name ∈ program.packages.map (·.name)
    · rw [apply_insert_of_taken taken]
      cases older : program.packages.find? (·.name == name) with
      | some older => rfl
      | none =>
        obtain ⟨held, mem, named⟩ := List.mem_map.mp taken
        have other : package.name ≠ name := by
          simpa [named] using List.find?_eq_none.mp older held mem
        simp [other]
    · rw [(apply_insert_of_fresh taken).2.1]
      by_cases same : package.name = name
      · subst same
        have absent : program.packages.find? (·.name == package.name) = none := by
          simpa using taken
        rw [find?_insertAscending_self (fun _ _ => rfl) package program.ascending, absent]
        simp
      · rw [find?_insertAscending_of_ne (fun _ _ => rfl) same]
        simp [same]

/-- A change makes its type known behind the others. -/
theorem extraTypes_apply (change : Change) (program : Program) :
    (change.apply program).2.extraTypes = program.extraTypes ++ change.type?.toList := by
  cases change with
  | addType info => rfl
  | insert package =>
    rw [Change.type?, Option.toList_none, List.append_nil]
    by_cases taken : package.name ∈ program.packages.map (·.name)
    · rw [apply_insert_of_taken taken]
    · exact (apply_insert_of_fresh taken).2.2

end Insertion

section Run

variable {program : Program} {changes : List Change}

/-- After any changes, the first package of a name is found under it: one that the program held
before, or else the first one that was to be put in. -/
theorem find?_run (program : Program) (changes : List Change) (name : String) :
    (program.run changes).packages.find? (·.name == name) =
      (program.packages ++ changes.filterMap Change.package?).find? (·.name == name) := by
  induction changes generalizing program with
  | nil => simp [run]
  | cons change rest ih =>
    rw [run, List.foldl_cons, ← run, ih, List.find?_append, find?_apply, List.find?_append,
      Option.or_assoc, ← List.find?_append, ← List.find?_append]
    cases change <;> rfl

/-- After any changes, the types are known in the order in which they came. -/
theorem extraTypes_run (program : Program) (changes : List Change) :
    (program.run changes).extraTypes = program.extraTypes ++ changes.filterMap Change.type? := by
  induction changes generalizing program with
  | nil => simp [run]
  | cons change rest ih =>
    rw [run, List.foldl_cons, ← run, ih, extraTypes_apply, List.append_assoc]
    cases change <;> rfl

/-- A refused package leaves no trace in what comes later. -/
theorem run_append_refused {front : List Change} {package : Package}
    (taken : package.name ∈ (program.run front).packages.map (·.name)) (back : List Change) :
    program.run (front ++ .insert package :: back) = program.run (front ++ back) := by
  have stays := congrArg Prod.snd (apply_insert_of_taken taken)
  rw [run] at stays
  rw [run, List.foldl_append, List.foldl_cons, stays, run, List.foldl_append]

/-- A program keeps the packages that are found in it under their names. -/
theorem keeps_of_find? {packages : List Package}
    (found : ∀ name, program.packages.find? (·.name == name) =
      packages.find? (·.name == name)) : program.Keeps packages program.extraTypes where
  named _ _ := node?_eq_some_iff
  found name := (program.map_val_node? name).trans (found name)
  held package := by
    rw [← found, find?_eq_some_iff_mem program.ascending, and_iff_left rfl]
  ascending := program.ascending.imp Text.utf8_lt_iff.mpr
  roots := by
    conv_rhs => rw [← program.map_val_nodes, List.filter_map]
    rfl
  classes := by
    rw [Program.classes, List.length_flatMap]
  methods := by
    rw [Program.methods, Program.classes, List.flatMap_assoc, List.length_flatMap]
    simp only [List.length_flatMap]
  types := rfl

/-- The names of a program's packages are those that were put in. -/
theorem Keeps.mem_names_iff {packages : List Package} {types : List TypeInfo}
    (keeps : program.Keeps packages types) {name : String} :
    name ∈ program.packages.map (·.name) ↔ name ∈ packages.map (·.name) := by
  have found := congrArg Option.isSome ((program.map_val_node? name).symm.trans (keeps.found name))
  simpa using Bool.eq_iff_iff.mp found

/-- The empty program keeps nothing. -/
theorem keeps_empty : ({} : Program).Keeps [] [] := keeps_of_find? fun _ => rfl

/-- After any changes a program keeps what it kept before, and behind it what was put in. -/
theorem Keeps.run {packages : List Package} {types : List TypeInfo}
    (keeps : program.Keeps packages types) (changes : List Change) :
    (program.run changes).Keeps (packages ++ changes.filterMap Change.package?)
      (types ++ changes.filterMap Change.type?) := by
  rw [← keeps.types, ← extraTypes_run]
  refine keeps_of_find? fun name => ?_
  rw [find?_run, List.find?_append, ← map_val_node?, keeps.found, List.find?_append]

end Run

section Loading

open Snapshot (insertEntry)

/-- Loading entries one after the other is putting in what they are loaded as. -/
theorem foldlM_insertEntry_eq_run {entries : List Snapshot.PackageEntry} {start last : Program}
    (passed : entries.foldlM insertEntry start = .ok last) :
    ∃ loaded, List.Forall₂ Snapshot.PackageEntry.LoadsAs entries loaded ∧
      last = start.run (loaded.map .insert) := by
  induction entries generalizing start with
  | nil => exact ⟨[], .nil, (foldlM_nil_eq_ok_iff.mp passed).symm⟩
  | cons entry rest ih =>
    obtain ⟨middle, first, later⟩ := foldlM_cons_eq_ok_iff.mp passed
    obtain ⟨package, loaded, inserted⟩ := bind_eq_ok_iff.mp first
    obtain ⟨packages, each, rfl⟩ := ih later
    refine ⟨package :: packages, .cons (entry.load_reports.good_of_eq_ok loaded) each, ?_⟩
    have put : ((Change.insert package).apply start).2 = middle := by
      rw [Change.apply]
      cases outcome : start.insert package with
      | error duplicate => rw [outcome] at inserted; cases inserted
      | ok next => exact Except.ok.inj ((congrArg _ outcome).symm.trans inserted)
    rw [List.map_cons, run, run, List.foldl_cons, put]

/-- A loaded program keeps what the entries of the snapshot are loaded as. -/
theorem exists_keeps_of_load {snapshot : Snapshot} {start : Program}
    (success : snapshot.load = .ok start) :
    ∃ loaded, List.Forall₂ Snapshot.PackageEntry.LoadsAs snapshot.packages loaded ∧
      start.Keeps loaded snapshot.types := by
  obtain ⟨last, passed, made⟩ := bind_eq_ok_iff.mp success
  obtain ⟨loaded, each, rfl⟩ := foldlM_insertEntry_eq_run passed
  obtain rfl := Except.ok.inj made
  have all : (loaded.map Change.insert).filterMap Change.package? = loaded := by
    rw [List.filterMap_map]
    exact List.filterMap_some
  refine ⟨loaded, each, keeps_of_find? fun name => ?_⟩
  exact (find?_run {} (loaded.map .insert) name).trans (by rw [List.nil_append, all])

end Loading

section Search

variable {program : Program} {text : String} {found : List Method}

/-- In order of their names is in order of the bytes of their names. -/
theorem fullName_le_iff {first second : Method} :
    Text.utf8 first.fullName ≤ Text.utf8 second.fullName ↔ first.fullName ≤ second.fullName :=
  List.not_lt.symm.trans ((not_congr Text.utf8_lt_iff).trans String.not_lt)

/-- A text is searched for by its characters. -/
theorem contains_eq (name text : String) :
    Text.contains name text = decide (text.toList <:+: name.toList) := by
  rw [Text.contains, Bool.eq_iff_iff, Text.occursIn_iff, decide_eq_true_iff]

/-- The methods of one name keep their order when they are found. -/
theorem filter_findMethods {name : String} (within : text.toList <:+: name.toList) :
    (program.findMethods text).filter (·.fullName == name) =
      program.methods.filter (·.fullName == name) := by
  rw [findMethods, filter_sortOn, List.filter_filter]
  refine List.filter_congr fun method _ => ?_
  by_cases named : method.fullName = name
  · rw [contains_eq, named, decide_eq_true within, Bool.and_true]
  · simp [named]

/-- The list of the methods that are found for a text is such a list. -/
theorem finds_findMethods (program : Program) (text : String) :
    program.Finds text (program.findMethods text) where
  perm := by
    have found : (program.findMethods text).Perm
        (program.methods.filter fun method => Text.contains method.fullName text) :=
      sortOn_perm Method.fullName _
    simpa only [contains_eq] using found
  ascending := by
    have sorted : (program.findMethods text).Pairwise (·.fullName ≤ ·.fullName) :=
      pairwise_sortOn Method.fullName _
    exact sorted.imp fullName_le_iff.mpr
  ties _ within := filter_findMethods within

/-- There is only one such list. -/
theorem Finds.unique {other : List Method} (finds : program.Finds text found)
    (alsoFinds : program.Finds text other) : found = other := by
  have none {methods : List Method} (finds : program.Finds text methods) {name : String}
      (without : ¬ text.toList <:+: name.toList) :
      methods.filter (·.fullName == name) = [] := by
    rw [List.filter_eq_nil_iff]
    intro method mem named
    have within := List.of_mem_filter (finds.perm.mem_iff.mp mem)
    rw [decide_eq_true_eq, beq_iff_eq.mp named] at within
    exact without within
  refine eq_of_pairwise_of_filter_eq (finds.ascending.imp fullName_le_iff.mp)
    (alsoFinds.ascending.imp fullName_le_iff.mp) fun name => ?_
  by_cases within : text.toList <:+: name.toList
  · rw [finds.ties name within, alsoFinds.ties name within]
  · rw [none finds within, none alsoFinds within]

/-- The methods that are found for a text are the only such list. -/
theorem findMethods_eq_iff : program.findMethods text = found ↔ program.Finds text found := by
  apply Iff.intro
  · intro same
    exact same ▸ finds_findMethods program text
  · intro finds
    exact (finds_findMethods program text).unique finds

end Search

/-- Whatever is done to an empty or a loaded program, it holds the first package of each name, as it
was put in, and lists them in ascending order; its roots and its counts are read off these. A
package is refused exactly when its name is taken, with that name, and then it leaves no trace in
the program or in what comes later. The methods that are found for a text are those whose fully
qualified names have it in them, each as often as it is held, in ascending order of the names and
otherwise in that of the program. -/
theorem first_packages_are_held :
    (∀ changes, (run {} changes).Keeps (changes.filterMap Change.package?)
      (changes.filterMap Change.type?)) ∧
    (∀ (snapshot : Snapshot) (start : Program), snapshot.load = .ok start →
      ∃ loaded, List.Forall₂ Snapshot.PackageEntry.LoadsAs snapshot.packages loaded ∧
        ∀ changes, (start.run changes).Keeps (loaded ++ changes.filterMap Change.package?)
          (snapshot.types ++ changes.filterMap Change.type?)) ∧
    (∀ (program : Program) (package : Package), ((Change.insert package).apply program).1 =
      if package.name ∈ program.packages.map (·.name) then .error ⟨package.name⟩ else .ok ()) ∧
    (∀ (start : Program) (front : List Change) (package : Package),
      package.name ∈ (start.run front).packages.map (·.name) →
        ((Change.insert package).apply (start.run front)).2 = start.run front ∧
          ∀ back, start.run (front ++ .insert package :: back) = start.run (front ++ back)) ∧
    ∀ (program : Program) (text : String) (found : List Method),
      program.findMethods text = found ↔ program.Finds text found := by
  refine ⟨keeps_empty.run, fun snapshot start success => ?_, fst_apply_insert,
    fun start front package taken => ?_, fun program text found => findMethods_eq_iff⟩
  · obtain ⟨loaded, each, keeps⟩ := exists_keeps_of_load success
    exact ⟨loaded, each, keeps.run⟩
  · exact ⟨congrArg Prod.snd (apply_insert_of_taken taken), run_append_refused taken⟩

/-- A package is put in, then one whose name a sketch has taken, and then a type is made known. -/
def sketchChanges : List Change :=
  [.insert { name := "net" }, .insert { name := "org", parent := some "net" },
    .addType { name := "java.lang.Object" }]

/-- The sketch keeps its own package under the name that comes again, and what is done behind the
refusal is done. -/
theorem packages_of_sketch :
    ∃ start loaded, (Snapshot.sketch "call" "0x18: ret" "org.example").load = .ok start ∧
      (start.run sketchChanges).Keeps
        (loaded ++ [{ name := "net" }, { name := "org", parent := some "net" }])
        [{ name := "java.lang.Object" }] ∧
      "org" ∈ (start.run (sketchChanges.take 1)).packages.map (·.name) ∧
      ((Change.insert { name := "org", parent := some "net" }).apply
        (start.run (sketchChanges.take 1))).1 = .error ⟨"org"⟩ ∧
      start.run sketchChanges = start.run (sketchChanges.eraseIdx 1) := by
  obtain ⟨_, kept, answered, refused, _⟩ := first_packages_are_held
  obtain ⟨start, success⟩ :=
    (Snapshot.load_reports (Snapshot.sketch "call" "0x18: ret" "org.example")).exists_eq_ok_iff.mpr
      (by decide +kernel)
  obtain ⟨loaded, each, keeps⟩ := kept _ start success
  have taken : "org" ∈ (start.run (sketchChanges.take 1)).packages.map (·.name) := by
    rw [(keeps (sketchChanges.take 1)).mem_names_iff]
    cases each with
    | cons first _ =>
      exact List.mem_map.mpr ⟨_, List.mem_append_left _ List.mem_cons_self, first.name⟩
  obtain ⟨_, later⟩ := refused start (sketchChanges.take 1)
    { name := "org", parent := some "net" } taken
  exact ⟨start, loaded, success, keeps sketchChanges, taken, (answered _ _).trans (if_pos taken),
    later (sketchChanges.drop 2)⟩

end Program

end Devirt
