import Devirt.Analysis
import Devirt.Ascending
import Devirt.Assembly.Line
import Devirt.Assembly.Operands
import Devirt.Assembly.Parser
import Devirt.CommandLine.Arguments
import Devirt.CommandLine.Recorded
import Devirt.CommandLine.Session
import Devirt.Detection.Detector
import Devirt.Detection.Finding
import Devirt.Detection.Marker
import Devirt.File.Path
import Devirt.File.Tree
import Devirt.Instruction.Basic
import Devirt.Instruction.Listing
import Devirt.Instruction.Render
import Devirt.Json.Basic
import Devirt.Json.Parser
import Devirt.Json.Printer
import Devirt.Json.Token
import Devirt.Main
import Devirt.Member
import Devirt.Method
import Devirt.NameIndex
import Devirt.Program.Basic
import Devirt.Program.Package
import Devirt.Program.Structure
import Devirt.Program.Walk
import Devirt.Report.Basic
import Devirt.Report.Builder
import Devirt.Report.Document
import Devirt.Scope.Frame
import Devirt.Scope.Link
import Devirt.Scope.OffsetIndex
import Devirt.Snapshot.Basic
import Devirt.Snapshot.Decode
import Devirt.Snapshot.Encode
import Devirt.Snapshot.Load
import Devirt.Text.Basic
import Devirt.Text.CaseTable
import Devirt.Text.CharClass
import Devirt.Text.Line
import Devirt.Text.Lowercase
import Devirt.Text.Numeral
import Devirt.Text.Printable
import Devirt.TypeHierarchy
import Devirt.Proofs.Ascending
import Devirt.Proofs.PackageLinks
import Devirt.Proofs.WellFormed
import Devirt.Proofs.StructureCheck
import Devirt.Proofs.Descent
import Devirt.Proofs.WalkOrder
import Devirt.Proofs.Emissions
import Devirt.Proofs.Findings
import Devirt.Proofs.Independence
import Devirt.Proofs.ExchangedComments
import Devirt.Proofs.MarkerEvidence
import Devirt.Proofs.LowercaseInContext
import Devirt.Proofs.AddedMarkers
import Devirt.Proofs.BuilderRuns
import Devirt.Proofs.ReportKeys
import Devirt.Proofs.RenderedRows
import Devirt.Proofs.InlinedCode
import Devirt.Proofs.AssemblyText
import Devirt.Proofs.ListingRoundTrip
import Devirt.Proofs.Receivers
import Devirt.Proofs.NameOrder
import Devirt.Proofs.WalkedMethods
import Devirt.Proofs.HierarchyEvidence
import Devirt.Proofs.AnalysisOutcome
import Devirt.Proofs.BuilderHistory
import Devirt.Proofs.Loading
import Devirt.Proofs.HierarchyIndex
import Devirt.Proofs.Reordering
import Devirt.Proofs.RearrangedProgram
import Devirt.Proofs.RearrangedSnapshot
import Devirt.Proofs.SearchDepth
import Devirt.Proofs.JsonLiterals
import Devirt.Proofs.JsonText
import Devirt.Proofs.Respelling
import Devirt.Proofs.SnapshotText
import Devirt.Proofs.FailingVisitors
import Devirt.Proofs.StructureDefects
import Devirt.Proofs.Partings
import Devirt.Proofs.WalkPrecedence
import Devirt.Proofs.FrameRuns
import Devirt.Proofs.ScopeGrammar
import Devirt.Proofs.RegisteredTypes
import Devirt.Proofs.ListingColumns
import Devirt.Proofs.OffsetEntries
import Devirt.Proofs.LabelOffsets
import Devirt.Proofs.StoredPackages
