import Reshape.BuiltIn
import Reshape.Compile
import Reshape.Corpus.Case
import Reshape.Corpus.Catalog
import Reshape.Corpus.Error
import Reshape.Corpus.Runner
import Reshape.Corpus.Settings
import Reshape.Corpus.Tree
import Reshape.Descriptor
import Reshape.Diff.Agreement
import Reshape.Diff.Lines
import Reshape.Diff.Report
import Reshape.Double
import Reshape.Double.Shortest
import Reshape.Error
import Reshape.Inspect
import Reshape.Inspect.Outline
import Reshape.Json.Fault
import Reshape.Json.Literal
import Reshape.Json.Printer
import Reshape.Json.Reader
import Reshape.Json.Scan
import Reshape.Json.Shape
import Reshape.Json.ShapeReader
import Reshape.Json.Value
import Reshape.Keyed
import Reshape.Mapping
import Reshape.Numeral
import Reshape.Options
import Reshape.Path
import Reshape.Proofs.Agreement
import Reshape.Proofs.Batches
import Reshape.Proofs.Callbacks
import Reshape.Proofs.CompilationNotes
import Reshape.Proofs.Context
import Reshape.Proofs.Contract
import Reshape.Proofs.Conversion
import Reshape.Proofs.Disagreements
import Reshape.Proofs.Discovery
import Reshape.Proofs.Dispatch
import Reshape.Proofs.Documents
import Reshape.Proofs.Enumeration
import Reshape.Proofs.FirstFlaw
import Reshape.Proofs.Flaws
import Reshape.Proofs.Fusion
import Reshape.Proofs.Grammar
import Reshape.Proofs.Interpretation
import Reshape.Proofs.Keyed
import Reshape.Proofs.LastWriter
import Reshape.Proofs.Lines
import Reshape.Proofs.Mapping
import Reshape.Proofs.MappingNotes
import Reshape.Proofs.Mirror
import Reshape.Proofs.Names
import Reshape.Proofs.Noninterference
import Reshape.Proofs.Numeral
import Reshape.Proofs.Options
import Reshape.Proofs.Ordered
import Reshape.Proofs.Outcome
import Reshape.Proofs.Path
import Reshape.Proofs.Phases
import Reshape.Proofs.PlaceTexts
import Reshape.Proofs.Positions
import Reshape.Proofs.PrintedText
import Reshape.Proofs.Reconstruction
import Reshape.Proofs.Registry
import Reshape.Proofs.Reordering
import Reshape.Proofs.Rounding
import Reshape.Proofs.Segments
import Reshape.Proofs.ShownChanges
import Reshape.Proofs.Spelling
import Reshape.Proofs.Translation
import Reshape.Proofs.Verdict
import Reshape.Registry
import Reshape.Rule
import Reshape.Text.Blank
import Reshape.Text.Case
import Reshape.Text.CaseTable
import Reshape.Text.Pieces
import Reshape.Text.Quoted
import Reshape.Text.QuotedTable
import Reshape.Trace
import Reshape.Typed
import Reshape.Version
