import Devirt.Report.Builder
import Devirt.Snapshot.Decode
import Devirt.Snapshot.Load

/-!
# Analyses

One run over a program, from the texts to look for to the report. A run can start from a
program or from the text of a snapshot; a text can fail in more ways.
-/

namespace Devirt

/-- What a run looks for: further markers, and whether the type hierarchy is asked. -/
structure Config where
  markers : List String := []
  useHierarchy : Bool := false
deriving DecidableEq, Repr

/-- The outcome of a run. -/
structure Analysis where
  report : Report
  statistics : Statistics
  hierarchyUsed : Bool
deriving DecidableEq, Repr

/-- Why there is no outcome. The cause of an unreadable file is told by what reads files. -/
inductive Error
  | invalidExtension
  | unreadable (cause : String)
  | malformed
  | load (error : LoadError)
  | illFormed (error : StructureError)
deriving DecidableEq, Repr

/-- The error in words. -/
def Error.message : Error → String
  | invalidExtension => "Invalid file extension"
  | unreadable cause => "Failed to read file: " ++ cause
  | malformed => "Failed to parse model snapshot: not a program in JSON"
  | load error => error.message
  | illFormed error => error.message

/-- The detector of a run over the program. -/
def Config.detector (config : Config) (program : Program) : Detection.Detector :=
  { Detection.Detector.ofMarkers config.markers with
    hierarchy := if config.useHierarchy then some program.typeHierarchy else none }

/-- There is a hierarchy to ask exactly if it is wanted. -/
theorem Config.hasHierarchy_detector (config : Config) (program : Program) :
    (config.detector program).hasHierarchy = config.useHierarchy := by
  rw [Detection.Detector.hasHierarchy, detector]
  cases config.useHierarchy <;> rfl

/-- Runs over the program. -/
def Program.analyze (program : Program) (config : Config) : Except StructureError Analysis :=
  let detector := config.detector program
  match ({ detector } : ReportBuilder).build program with
  | (.error e, _) => .error e
  | (.ok report, builder) => .ok ⟨report, builder.statistics, detector.hasHierarchy⟩

/-- The program of a snapshot's text. -/
def Program.ofText (text : String) : Except Error Program :=
  match Snapshot.ofText? text with
  | none => .error .malformed
  | some snapshot => snapshot.load.mapError .load

/-- Runs over the program of a snapshot's text. -/
def Analysis.ofText (text : String) (config : Config) : Except Error Analysis := do
  ((← Program.ofText text).analyze config).mapError .illFormed

end Devirt
