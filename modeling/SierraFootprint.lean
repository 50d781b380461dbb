import SierraFootprint.Artifact.Basic
import SierraFootprint.CommandLine.Arguments
import SierraFootprint.CommandLine.Run
import SierraFootprint.CommandLine.Usage
import SierraFootprint.Decimal.FloatText
import SierraFootprint.Decimal.Numeral
import SierraFootprint.Files.Tree
import SierraFootprint.Json.Numeral
import SierraFootprint.Json.Reader
import SierraFootprint.Json.Value
import SierraFootprint.Main
import SierraFootprint.Program.Basic
import SierraFootprint.Proofs.Artifact.Access
import SierraFootprint.Proofs.Artifact.Bystanders
import SierraFootprint.Proofs.Artifact.Classification
import SierraFootprint.Proofs.Artifact.Content
import SierraFootprint.Proofs.Artifact.HexSize
import SierraFootprint.Proofs.Artifact.Message
import SierraFootprint.Proofs.Artifact.SizeBound
import SierraFootprint.Proofs.CommandLine.Commands
import SierraFootprint.Proofs.CommandLine.Words
import SierraFootprint.Proofs.Decimal.CountText
import SierraFootprint.Proofs.Decimal.Grouping
import SierraFootprint.Proofs.Files.Cycles
import SierraFootprint.Proofs.Files.Names
import SierraFootprint.Proofs.Files.Resolution
import SierraFootprint.Proofs.Json.Accepted
import SierraFootprint.Proofs.Json.Grammar
import SierraFootprint.Proofs.Json.LeastLength
import SierraFootprint.Proofs.Json.Literal
import SierraFootprint.Proofs.Json.LiteralRead
import SierraFootprint.Proofs.Json.Reading
import SierraFootprint.Proofs.Json.Refusal
import SierraFootprint.Proofs.Json.Written
import SierraFootprint.Proofs.Program.Accounting
import SierraFootprint.Proofs.Program.Casing
import SierraFootprint.Proofs.Program.LeadingBytes
import SierraFootprint.Proofs.Program.Leftovers
import SierraFootprint.Proofs.Program.Markers
import SierraFootprint.Proofs.Program.Seams
import SierraFootprint.Proofs.Program.WordSize
import SierraFootprint.Proofs.Query.Found
import SierraFootprint.Proofs.Query.Message
import SierraFootprint.Proofs.Query.Output
import SierraFootprint.Proofs.Query.Running
import SierraFootprint.Proofs.Report.Colouring
import SierraFootprint.Proofs.Report.Independence
import SierraFootprint.Proofs.Report.Parts
import SierraFootprint.Proofs.Report.Transcript
import SierraFootprint.Proofs.Text.Boundaries
import SierraFootprint.Proofs.Text.LetterCase
import SierraFootprint.Proofs.Text.Lowercase
import SierraFootprint.Proofs.Text.Quotation
import SierraFootprint.Proofs.Text.Trimmed
import SierraFootprint.Proofs.Text.WellFormed
import SierraFootprint.Proofs.Tool.Search
import SierraFootprint.Query.Basic
import SierraFootprint.Report
import SierraFootprint.SystemError
import SierraFootprint.Text.Characters
import SierraFootprint.Text.Escapes
import SierraFootprint.Text.Lowercase
import SierraFootprint.Text.Quoted
import SierraFootprint.Text.Utf8
import SierraFootprint.Tool.Ending
import SierraFootprint.Tool.Lookup
import SierraFootprint.Tool.Spawn
import SierraFootprint.World
