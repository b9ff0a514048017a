import Pinpoint.Artifact
import Pinpoint.Ast.DynamicArray
import Pinpoint.Ast.Enclosing
import Pinpoint.Ast.Node
import Pinpoint.Bytecode.CodeMap
import Pinpoint.Bytecode.Hex
import Pinpoint.Bytecode.Instructions
import Pinpoint.Cli.Arguments
import Pinpoint.Cli.Command
import Pinpoint.Cli.Files
import Pinpoint.Cli.Load
import Pinpoint.Contract
import Pinpoint.Decimal.Binary64
import Pinpoint.Decimal.Rounding
import Pinpoint.Decimal.Shortest
import Pinpoint.Diagnostic
import Pinpoint.Fault
import Pinpoint.FileName
import Pinpoint.Finding.Attribution
import Pinpoint.Finding.Batch
import Pinpoint.Finding.Severity
import Pinpoint.Json.Display
import Pinpoint.Json.Order
import Pinpoint.Json.Printer
import Pinpoint.Json.Reader
import Pinpoint.Json.Value
import Pinpoint.LineIndex
import Pinpoint.Main
import Pinpoint.Normalization
import Pinpoint.Position
import Pinpoint.Proofs.AddedSource
import Pinpoint.Proofs.Attribution
import Pinpoint.Proofs.Compression
import Pinpoint.Proofs.DecoderAgreement
import Pinpoint.Proofs.DiagnosticOrder
import Pinpoint.Proofs.EnclosingNode
import Pinpoint.Proofs.ErrorKeys
import Pinpoint.Proofs.ErrorOrder
import Pinpoint.Proofs.FileBounds
import Pinpoint.Proofs.Gathering
import Pinpoint.Proofs.GroupedParts
import Pinpoint.Proofs.Grouping
import Pinpoint.Proofs.HexRuns
import Pinpoint.Proofs.HexText
import Pinpoint.Proofs.Independence
import Pinpoint.Proofs.InputShapes
import Pinpoint.Proofs.InsertionOrder
import Pinpoint.Proofs.InstructionWalk
import Pinpoint.Proofs.Interruptions
import Pinpoint.Proofs.Isolation
import Pinpoint.Proofs.JsonOrder
import Pinpoint.Proofs.JsonRoundTrip
import Pinpoint.Proofs.JsonText
import Pinpoint.Proofs.LastWritten
import Pinpoint.Proofs.Ledger
import Pinpoint.Proofs.LineEnds
import Pinpoint.Proofs.LineScan
import Pinpoint.Proofs.Linking
import Pinpoint.Proofs.LoadFailures
import Pinpoint.Proofs.NamedLines
import Pinpoint.Proofs.Namesakes
import Pinpoint.Proofs.NodeLookup
import Pinpoint.Proofs.Numerals
import Pinpoint.Proofs.Padding
import Pinpoint.Proofs.PlacedDiagnostics
import Pinpoint.Proofs.Preorder
import Pinpoint.Proofs.Presentation
import Pinpoint.Proofs.PrintedReport
import Pinpoint.Proofs.Printing
import Pinpoint.Proofs.Provenance
import Pinpoint.Proofs.RangeOrder
import Pinpoint.Proofs.ReportJson
import Pinpoint.Proofs.ReportedNames
import Pinpoint.Proofs.Resolution
import Pinpoint.Proofs.Results
import Pinpoint.Proofs.Scheduling
import Pinpoint.Proofs.SharePartition
import Pinpoint.Proofs.SortedNames
import Pinpoint.Proofs.SourceFiles
import Pinpoint.Proofs.SpanAgreement
import Pinpoint.Proofs.SpanOrder
import Pinpoint.Proofs.StableSort
import Pinpoint.Proofs.StoppedBatches
import Pinpoint.Proofs.Suppression
import Pinpoint.Proofs.Tiling
import Pinpoint.Proofs.UnusableArtifacts
import Pinpoint.Proofs.Utf8
import Pinpoint.Proofs.Verdict
import Pinpoint.Report.Grouping
import Pinpoint.Report.Lines
import Pinpoint.Report.Numbers
import Pinpoint.Report.Order
import Pinpoint.Report.Style
import Pinpoint.Report.Table
import Pinpoint.Run
import Pinpoint.SourceMap.Compressed
import Pinpoint.SourceMap.Entry
import Pinpoint.Terminal
import Pinpoint.Terminal.Emoji
import Pinpoint.Terminal.Emoji.Flags
import Pinpoint.Terminal.Emoji.SkinTone
import Pinpoint.Terminal.Emoji.SymbolsAToC
import Pinpoint.Terminal.Emoji.SymbolsDToH
import Pinpoint.Terminal.Emoji.SymbolsIToO
import Pinpoint.Terminal.Emoji.SymbolsPToS
import Pinpoint.Terminal.Emoji.SymbolsTToZ
import Pinpoint.Text.Blank
import Pinpoint.Text.CellWidth
import Pinpoint.Text.Cells
import Pinpoint.Text.CodeRange
import Pinpoint.Text.DecimalDigit
import Pinpoint.Text.Fields
import Pinpoint.Text.Hex
import Pinpoint.Text.Newlines
import Pinpoint.Text.Numeral
import Pinpoint.Text.Printable
import Pinpoint.Text.Quoted
import Pinpoint.Text.Sorted
import Pinpoint.Text.Utf8
import Pinpoint.Text.Wrap
