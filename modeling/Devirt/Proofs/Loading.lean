import Devirt.Proofs.Ascending
import Devirt.Proofs.Outcome
import Devirt.Snapshot.Load

/-!
# What loading keeps and what it refuses

Loading stops at the first fault. What counts as a fault is said of a snapshot without loading it:
its faults are listed in document order, whether or not loading would come that far. An entry
that is no fault is kept as it is. Nothing is lost on the way, nothing changes its place, and
nothing is added but what the assembly texts say; only the packages are kept by name instead of
in the order they came.
-/

namespace Devirt.Snapshot

/-- The loaded instruction says what the entry says. Its comments have lost the blanks at their
ends. -/
structure InstructionEntry.LoadsAs (entry : InstructionEntry) (instruction : Instruction) :
    Prop where
  label : instruction.label = entry.label
  address : instruction.address = entry.address
  modifier : instruction.modifier = entry.modifier
  mnemonic : instruction.mnemonic = entry.mnemonic
  operands : instruction.operands = entry.operands
  comments : instruction.comments.map (·.text) = entry.comments.map Text.trimmed

/-- The instructions are those that the assembly text says, or none if there is no text. -/
def AssemblyReads : Option String → List Instruction → Prop
  | none, instructions => instructions = []
  | some text, instructions => Assembly.parse text = .ok instructions

/-- The loaded method has the instructions of the entry and behind them those of its assembly
text. -/
structure MethodEntry.LoadsAs (entry : MethodEntry) (method : Method) : Prop where
  member : method.member = entry.member
  callSites : method.callSites = entry.callSites
  instructions : ∃ given written, method.instructions = given ++ written ∧
    List.Forall₂ InstructionEntry.LoadsAs entry.instructions given ∧
    AssemblyReads entry.assembly written

/-- The loaded class has the methods of the entry in their order. -/
structure ClassEntry.LoadsAs (entry : ClassEntry) (loaded : LoadedClass) : Prop where
  info : loaded.info = entry.info
  package : loaded.package = entry.package
  methods : List.Forall₂ MethodEntry.LoadsAs entry.methods loaded.methods

/-- The loaded package has the classes of the entry in their order. -/
structure PackageEntry.LoadsAs (entry : PackageEntry) (package : Package) : Prop where
  name : package.name = entry.name
  parent : package.parent = entry.parent
  children : package.children = entry.children
  classes : List.Forall₂ ClassEntry.LoadsAs entry.classes package.classes

/-- The loaded program has one package for each entry, and the types of the snapshot. -/
structure LoadsAs (snapshot : Snapshot) (program : Program) : Prop where
  packages : ∃ loaded, List.Forall₂ PackageEntry.LoadsAs snapshot.packages loaded ∧
    program.packages.Perm loaded
  types : program.extraTypes = snapshot.types

/-- An entry says which instruction is loaded. -/
theorem InstructionEntry.LoadsAs.unique {entry : InstructionEntry} {first second : Instruction}
    (loaded : entry.LoadsAs first) (other : entry.LoadsAs second) : first = second := by
  have comments : first.comments = second.comments :=
    List.map_injective_iff.mpr (fun _ _ => Comment.ext_text)
      (loaded.comments.trans other.comments.symm)
  cases first
  cases second
  rw [Instruction.mk.injEq]
  exact ⟨loaded.label.trans other.label.symm, loaded.address.trans other.address.symm,
    loaded.modifier.trans other.modifier.symm, loaded.mnemonic.trans other.mnemonic.symm,
    loaded.operands.trans other.operands.symm, comments⟩

/-- An assembly text says which instructions are read. -/
theorem AssemblyReads.unique {assembly : Option String} {first second : List Instruction}
    (read : AssemblyReads assembly first) (other : AssemblyReads assembly second) :
    first = second := by
  cases assembly with
  | none => exact Eq.trans read (Eq.symm other)
  | some text => exact Except.ok.inj (Eq.trans (Eq.symm read) other)

/-- An entry says which method is loaded. -/
theorem MethodEntry.LoadsAs.unique {entry : MethodEntry} {first second : Method}
    (loaded : entry.LoadsAs first) (other : entry.LoadsAs second) : first = second := by
  obtain ⟨given, written, made, each, read⟩ := loaded.instructions
  obtain ⟨given', written', made', each', read'⟩ := other.instructions
  have single : Relator.RightUnique InstructionEntry.LoadsAs :=
    fun _ _ _ loaded other => loaded.unique other
  have givens : given = given' := single.forall₂ each each'
  cases first
  cases second
  rw [Method.mk.injEq]
  exact ⟨loaded.member.trans other.member.symm, loaded.callSites.trans other.callSites.symm,
    made.trans (made'.trans (by rw [givens, read.unique read'])).symm⟩

/-- The fault of an instruction: it has no mnemonic. -/
def InstructionEntry.faults (entry : InstructionEntry) : List LoadError :=
  if Text.trimmed entry.mnemonic = "" then [.emptyMnemonic entry.address] else []

/-- The fault of an assembly text: it cannot be read. -/
def assemblyFaults : Option String → List LoadError
  | none => []
  | some text =>
    match Assembly.parse text with
    | .error fault => [.assembly fault]
    | .ok _ => []

/-- The faults of a method. Its instructions come before its assembly text. -/
def MethodEntry.faults (entry : MethodEntry) : List LoadError :=
  entry.instructions.flatMap InstructionEntry.faults ++ assemblyFaults entry.assembly

/-- The faults of a class, method by method. -/
def ClassEntry.faults (entry : ClassEntry) : List LoadError :=
  entry.methods.flatMap MethodEntry.faults

/-- The faults within a package, class by class. -/
def PackageEntry.faults (entry : PackageEntry) : List LoadError :=
  entry.classes.flatMap ClassEntry.faults

/-- The fault of a package's name: it is one of the names before it. -/
def PackageEntry.nameFaults (entry : PackageEntry) (before : List String) : List LoadError :=
  if entry.name ∈ before then [.duplicatePackage ⟨entry.name⟩] else []

/-- The faults of packages in order, behind packages of the given names. The faults within a
package come before that of its name. -/
def faultsBehind (before : List String) : List PackageEntry → List LoadError
  | [] => []
  | entry :: rest =>
    entry.faults ++ entry.nameFaults before ++ faultsBehind (entry.name :: before) rest

/-- All faults of the snapshot, in document order. -/
def faults (snapshot : Snapshot) : List LoadError := faultsBehind [] snapshot.packages

/-- All methods of the snapshot. -/
def methods (snapshot : Snapshot) : List MethodEntry :=
  (snapshot.packages.flatMap (·.classes)).flatMap (·.methods)

/-- The snapshot has nothing in it that loading refuses. -/
structure Loadable (snapshot : Snapshot) : Prop where
  mnemonics : ∀ method ∈ snapshot.methods, ∀ entry ∈ method.instructions,
    Text.trimmed entry.mnemonic ≠ ""
  assemblies : ∀ method ∈ snapshot.methods, ∀ text, method.assembly = some text →
    ∃ instructions, Assembly.parse text = .ok instructions
  names : (snapshot.packages.map (·.name)).Nodup

/-- An instruction has no fault when it has a mnemonic. -/
theorem InstructionEntry.faults_eq_nil_iff {entry : InstructionEntry} :
    entry.faults = [] ↔ Text.trimmed entry.mnemonic ≠ "" := by
  simp [faults]

/-- An assembly text has no fault when it can be read. -/
theorem assemblyFaults_eq_nil_iff {assembly : Option String} :
    assemblyFaults assembly = [] ↔
      ∀ text, assembly = some text → ∃ instructions, Assembly.parse text = .ok instructions := by
  cases assembly with
  | none => simp [assemblyFaults]
  | some text => cases read : Assembly.parse text <;> simp [assemblyFaults, read]

/-- A method has no fault when its instructions and its assembly text have none. -/
theorem MethodEntry.faults_eq_nil_iff {entry : MethodEntry} :
    entry.faults = [] ↔
      (∀ instruction ∈ entry.instructions, Text.trimmed instruction.mnemonic ≠ "") ∧
        ∀ text, entry.assembly = some text →
          ∃ instructions, Assembly.parse text = .ok instructions := by
  simp only [faults, List.append_eq_nil_iff, List.flatMap_eq_nil_iff,
    InstructionEntry.faults_eq_nil_iff, assemblyFaults_eq_nil_iff]

/-- Packages have no fault when nothing within them has one and their names are new. -/
theorem faultsBehind_eq_nil_iff {before : List String} {entries : List PackageEntry} :
    faultsBehind before entries = [] ↔
      (∀ entry ∈ entries, entry.faults = []) ∧ (∀ entry ∈ entries, entry.name ∉ before) ∧
        (entries.map (·.name)).Nodup := by
  induction entries generalizing before with
  | nil => simp [faultsBehind]
  | cons entry rest ih =>
    rw [List.forall_mem_cons, List.forall_mem_cons, List.map_cons, List.nodup_cons]
    simp only [faultsBehind, List.append_eq_nil_iff, ih, PackageEntry.nameFaults,
      ite_eq_right_iff, reduceCtorEq, imp_false, List.mem_map, not_exists, not_and,
      List.mem_cons, not_or]
    constructor
    · intro parts
      obtain ⟨⟨own, fresh⟩, others, differ, distinct⟩ := parts
      exact ⟨⟨own, others⟩, ⟨fresh, fun other mem => (differ other mem).2⟩,
        fun other mem => (differ other mem).1, distinct⟩
    · intro parts
      obtain ⟨⟨own, others⟩, ⟨fresh, old⟩, differ, distinct⟩ := parts
      exact ⟨⟨own, fresh⟩, others, fun other mem => ⟨differ other mem, old other mem⟩, distinct⟩

/-- A snapshot that can be loaded is one without faults. -/
theorem faults_eq_nil_iff {snapshot : Snapshot} : snapshot.faults = [] ↔ snapshot.Loadable := by
  have within : (∀ entry ∈ snapshot.packages, entry.faults = []) ↔
      ∀ method ∈ snapshot.methods, method.faults = [] := by
    simp only [methods, PackageEntry.faults, ClassEntry.faults, List.flatMap_eq_nil_iff,
      List.mem_flatMap, forall_exists_index, and_imp]
    exact ⟨fun each method loaded entry mem inClass inMethods =>
        each entry mem loaded inClass method inMethods,
      fun each entry mem loaded inClass method inMethods =>
        each method loaded entry mem inClass inMethods⟩
  rw [faults, faultsBehind_eq_nil_iff, within]
  simp only [MethodEntry.faults_eq_nil_iff, List.not_mem_nil, not_false_eq_true, implies_true,
    true_and]
  exact ⟨fun parts => ⟨fun method mem => (parts.1 method mem).1,
      fun method mem => (parts.1 method mem).2, parts.2⟩,
    fun loadable => ⟨fun method mem => ⟨loadable.mnemonics method mem,
      loadable.assemblies method mem⟩, loadable.names⟩⟩

/-- Loading an instruction reports its fault. -/
theorem InstructionEntry.load_reports (entry : InstructionEntry) :
    Reports entry.faults entry.LoadsAs entry.load := by
  rw [faults, load]
  split
  · rfl
  · refine ⟨_, rfl, ⟨rfl, rfl, rfl, rfl, rfl, ?_⟩⟩
    rw [List.map_map]
    rfl

/-- Reading an assembly text reports its fault. -/
theorem loadAssembly_reports (assembly : Option String) :
    Reports (assemblyFaults assembly) (AssemblyReads assembly) (loadAssembly assembly) := by
  cases assembly with
  | none => exact ⟨[], rfl, rfl⟩
  | some text =>
    rw [assemblyFaults, loadAssembly]
    cases read : Assembly.parse text with
    | error fault => rfl
    | ok instructions => exact ⟨instructions, rfl, read⟩

/-- Loading a method reports its first fault. -/
theorem MethodEntry.load_reports (entry : MethodEntry) :
    Reports entry.faults entry.LoadsAs entry.load := by
  refine (Reports.mapM fun instruction _ => instruction.load_reports).bind fun given same => ?_
  exact (loadAssembly_reports entry.assembly).map fun written read =>
    ⟨rfl, rfl, given, written, rfl, same, read⟩

/-- Loading a class reports its first fault. -/
theorem ClassEntry.load_reports (entry : ClassEntry) :
    Reports entry.faults entry.LoadsAs entry.load :=
  (Reports.mapM fun method _ => method.load_reports).map fun _ same => ⟨rfl, rfl, same⟩

/-- Loading a package reports the first fault within it. -/
theorem PackageEntry.load_reports (entry : PackageEntry) :
    Reports entry.faults entry.LoadsAs entry.load :=
  (Reports.mapM fun loaded _ => loaded.load_reports).map fun _ same => ⟨rfl, rfl, rfl, same⟩

/-- A program holds a package of a name when one of its packages has it. -/
theorem hasPackage_iff {program : Program} {name : String} :
    program.hasPackage name ↔ name ∈ program.packages.map (·.name) := by
  simp [Program.hasPackage, Program.node?, Program.nodes]

/-- Inserting a package reports that its name is taken. Otherwise the program has one package
more. -/
theorem insert_reports {program : Program} {before : List String} {entry : PackageEntry}
    {package : Package} (held : ∀ name, name ∈ before ↔ name ∈ program.packages.map (·.name))
    (same : package.name = entry.name) :
    Reports (entry.nameFaults before)
      (fun next => next.packages.Perm (package :: program.packages) ∧
        next.extraTypes = program.extraTypes)
      ((program.insert package).mapError .duplicatePackage) := by
  rw [PackageEntry.nameFaults, Program.insert, ← same]
  by_cases taken : package.name ∈ before
  · rw [if_pos taken, if_pos (hasPackage_iff.mpr ((held _).mp taken))]
    rfl
  · have fresh : package.name ∉ program.packages.map (·.name) := mt (held _).mpr taken
    rw [if_neg taken, if_neg (mt hasPackage_iff.mp fresh)]
    refine ⟨_, rfl, insertAscending_perm_of_fresh fun other mem equal => fresh ?_, rfl⟩
    exact List.mem_map.mpr ⟨other, mem, equal⟩

/-- Loading an entry into a program reports its first fault. Otherwise the program has one package
more. -/
theorem insertEntry_reports {program : Program} {before : List String}
    (held : ∀ name, name ∈ before ↔ name ∈ program.packages.map (·.name)) (entry : PackageEntry) :
    Reports (entry.faults ++ entry.nameFaults before)
      (fun next => ∃ package, entry.LoadsAs package ∧
        next.packages.Perm (package :: program.packages) ∧ next.extraTypes = program.extraTypes)
      (insertEntry program entry) := by
  refine entry.load_reports.bind fun package same => ?_
  exact (insert_reports held same.name).mono fun next parts => ⟨package, same, parts⟩

/-- Loading entries into a program reports the first fault in them. Otherwise the program has one
package more for each entry. -/
theorem foldlM_insertEntry_reports {program : Program} {before : List String}
    (held : ∀ name, name ∈ before ↔ name ∈ program.packages.map (·.name))
    (entries : List PackageEntry) :
    Reports (faultsBehind before entries)
      (fun last => ∃ loaded, List.Forall₂ PackageEntry.LoadsAs entries loaded ∧
        last.packages.Perm (loaded ++ program.packages) ∧ last.extraTypes = program.extraTypes)
      (entries.foldlM insertEntry program) := by
  induction entries generalizing program before with
  | nil => exact ⟨program, rfl, [], .nil, List.Perm.refl _, rfl⟩
  | cons entry rest ih =>
    rw [faultsBehind, List.foldlM_cons]
    refine (insertEntry_reports held entry).bind fun next parts => ?_
    obtain ⟨package, same, more, types⟩ := parts
    have heldNext (name : String) :
        name ∈ entry.name :: before ↔ name ∈ next.packages.map (·.name) := by
      rw [(more.map _).mem_iff, List.map_cons, same.name, List.mem_cons, List.mem_cons, held]
    refine (ih heldNext).mono fun last parts => ?_
    obtain ⟨loaded, each, all, kept⟩ := parts
    refine ⟨package :: loaded, .cons same each, ?_, kept.trans types⟩
    exact all.trans ((more.append_left loaded).trans List.perm_middle)

/-- Loading a snapshot reports its first fault. -/
theorem load_reports (snapshot : Snapshot) :
    Reports snapshot.faults snapshot.LoadsAs snapshot.load := by
  have entries := @foldlM_insertEntry_reports {} [] (fun _ => Iff.rfl) snapshot.packages
  refine entries.map fun program parts => ?_
  obtain ⟨loaded, each, all, _⟩ := parts
  rw [List.append_nil] at all
  exact ⟨⟨loaded, each, all⟩, rfl⟩

/-- A snapshot is loaded exactly when every instruction has a mnemonic, every assembly text can be
read and no two packages have one name. The program then holds all of the snapshot, in its order
within each package, and nothing else. Otherwise loading fails with the first fault in document
order. -/
theorem load_keeps_all_or_tells_first_fault (snapshot : Snapshot) :
    ((∃ program, snapshot.load = .ok program) ↔ snapshot.Loadable) ∧
      (∀ program, snapshot.load = .ok program → snapshot.LoadsAs program) ∧
      ∀ e, snapshot.load = .error e ↔ snapshot.faults.head? = some e :=
  ⟨snapshot.load_reports.exists_eq_ok_iff.trans faults_eq_nil_iff,
    fun _ loaded => snapshot.load_reports.good_of_eq_ok loaded,
    fun _ => snapshot.load_reports.eq_error_iff⟩

/-- A package and its child. The child's only method has one instruction of its own and one that
is written in assembly text. -/
def sketch (mnemonic assembly child : String) : Snapshot where
  packages := [
    { name := "org", children := ["org.example"] },
    { name := child, parent := some "org",
      classes := [{
        info := { name := "org.example.Canvas" }, package := "org.example",
        methods := [{
          member := ⟨"org.example.Canvas", "paint", "()V"⟩
          instructions := [{ address := 16, mnemonic, comments := ["  ; monomorphic "] }]
          assembly := some assembly }] }] }]

/-- A sketch without faults is loaded. Of several faults the one that comes first is told. -/
theorem load_of_sketch :
    (∃ program, (sketch "call" "0x18: ret" "org.example").load = .ok program ∧
        (sketch "call" "0x18: ret" "org.example").LoadsAs program) ∧
      (sketch " " "0x18:" "org").load = .error (.emptyMnemonic 16) ∧
      (sketch "call" "0x18:" "org").load = .error (.assembly ⟨1, "0x18:"⟩) ∧
      (sketch "call" "0x18: ret" "org").load = .error (.duplicatePackage ⟨"org"⟩) := by
  have outcome := load_keeps_all_or_tells_first_fault
  obtain ⟨succeeds, keeps, _⟩ := outcome (sketch "call" "0x18: ret" "org.example")
  obtain ⟨program, loaded⟩ := succeeds.mpr (faults_eq_nil_iff.mp (by decide +kernel))
  exact ⟨⟨program, loaded, keeps program loaded⟩, ((outcome _).2.2 _).mpr (by decide +kernel),
    ((outcome _).2.2 _).mpr (by decide +kernel), ((outcome _).2.2 _).mpr (by decide +kernel)⟩

end Devirt.Snapshot
