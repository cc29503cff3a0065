import Devirt.CommandLine.Arguments
import Devirt.File.Tree
import Devirt.Instruction.Listing
import Devirt.Report.Document

/-!
# Sessions

A session does what the command line asks for: it loads the snapshot, prints the listings that
were asked for, runs, prints a summary and writes the two documents. It knows files and the
terminal only through a host, so it can be run on a real system and on a directory tree in
memory alike. The first thing that fails ends it; what was printed and written before stays.
-/

namespace Devirt.CommandLine

/-- What a session needs from the system it runs on. What can fail tells its cause. -/
structure Host (m : Type → Type) where
  print : String → m Unit
  readText : (path : String) → m (Except String String)
  createDirectory : (path : String) → m (Except String Unit)
  writeText : (path text : String) → m (Except String Unit)

/-- The listing of a method beneath its name. -/
def methodListing (method : Method) : String :=
  "\n===================  " ++ method.fullName ++ "  ===================\n" ++
    (if method.isCompiled then Listing.text method.instructions else "  (no native code)") ++ "\n"

/-- The listings of the methods whose names contain the text. -/
def listings (program : Program) (text : String) : String :=
  match program.findMethods text with
  | [] => "No methods match '" ++ text ++ "'\n"
  | methods => String.join (methods.map methodListing)

/-- A finding in a line of the summary. -/
def summaryLine (finding : Detection.Finding) : String :=
  "- " ++ finding.place ++ " [" ++ finding.kind.opcode ++ "] " ++ finding.target.fullName ++
    " (" ++ finding.evidence ++ ")\n"

/-- The summary of a run. -/
def summary (analysis : Analysis) : String :=
  let statistics := analysis.statistics
  "\n====================  STATS  ====================\n" ++
    "Compiled methods visited: " ++ toString statistics.methodsVisited ++ "\n" ++
    "Call sites examined: " ++ toString statistics.callSitesExamined ++ "\n" ++
    "Virtual/interface call sites: " ++ toString statistics.dispatchedCallSites ++ "\n" ++
    "Hierarchy confirmation: " ++ analysis.hierarchyWord ++ "\n" ++
    "=================================================\n" ++
    "\nFound " ++ toString analysis.report.size ++ " optimized virtual calls: \n" ++
    String.join (analysis.report.findings.map summaryLine)

/-- Where the documents were written. -/
def writtenNote (output : String) : String :=
  "\nResults written to:\n- " ++ File.joinPath output Analysis.jsonFileName ++
    "\n- " ++ File.joinPath output Analysis.textFileName ++ "\n"

namespace Host

variable {m : Type → Type} [Monad m]

/-- The program of the snapshot in a file. The file is not read if its name has the wrong
extension. -/
def loadProgram (host : Host m) (path : String) : m (Except Error Program) := do
  if File.isSnapshotPath path then
    match ← host.readText path with
    | .error cause => return .error (.unreadable cause)
    | .ok text => return Program.ofText text
  else return .error .invalidExtension

/-- Runs over the program of the snapshot in a file. -/
def analyze (host : Host m) (path : String) (config : Config) : m (Except Error Analysis) := do
  match ← host.loadProgram path with
  | .error e => return .error e
  | .ok program => return (program.analyze config).mapError .illFormed

/-- Writes the two documents into a directory, which is made if need be. -/
def writeDocuments (host : Host m) (analysis : Analysis) (directory : String) :
    m (Except Error Unit) := do
  match ← host.createDirectory directory with
  | .error cause => return .error (.unreadable cause)
  | .ok () =>
    let jsonPath := File.joinPath directory Analysis.jsonFileName
    match ← host.writeText jsonPath analysis.jsonDocument with
    | .error cause => return .error (.unreadable cause)
    | .ok () =>
      let textPath := File.joinPath directory Analysis.textFileName
      return (← host.writeText textPath analysis.textDocument).mapError .unreadable

/-- Runs a session. If it fails, the result is what is said about it. -/
def run (host : Host m) (arguments : Arguments) : m (Except String Unit) := do
  let config : Config := ⟨arguments.markers, arguments.hierarchy⟩
  match ← host.loadProgram arguments.file with
  | .error e => return .error ("Failed to load snapshot " ++ arguments.file ++ ": " ++ e.message)
  | .ok program =>
    if let some text := arguments.listing then host.print (listings program text)
    match program.analyze config with
    | .error e => return .error ("Analysis failed: " ++ e.message)
    | .ok analysis =>
      host.print (summary analysis)
      match ← host.writeDocuments analysis arguments.output with
      | .error e =>
        return .error ("Failed to write results to " ++ arguments.output ++ ": " ++ e.message)
      | .ok () =>
        host.print (writtenNote arguments.output)
        return .ok ()

end Host

end Devirt.CommandLine
