import Bytewise.Main
import Bytewise.Disk
import Bytewise.Proofs.Buffer.Slices
import Bytewise.Proofs.Buffer.Search
import Bytewise.Proofs.Buffer.Reads
import Bytewise.Proofs.Comparison.Patch
import Bytewise.Proofs.Comparison.Positions
import Bytewise.Proofs.Comparison.Mirror
import Bytewise.Proofs.Comparison.Distance
import Bytewise.Proofs.Comparison.Lookup
import Bytewise.Proofs.Text.Encoding
import Bytewise.Proofs.Dispatch
import Bytewise.Proofs.Signature.Table
import Bytewise.Proofs.Inspect.Recognition
import Bytewise.Proofs.Buffer.LittleEndian
import Bytewise.Proofs.Buffer.Pieces
import Bytewise.Proofs.Pe.Blueprint
import Bytewise.Proofs.Pe.RoundTrip
import Bytewise.Proofs.Pe.SectionTable
import Bytewise.Proofs.Checksum
import Bytewise.Proofs.Checksum.ChangedByte
import Bytewise.Proofs.Elf.Records
import Bytewise.Proofs.Elf.Imports
import Bytewise.Proofs.Elf.Sections
import Bytewise.Proofs.Inspect.Truncation
import Bytewise.Proofs.Inspect.WellFormed
import Bytewise.Proofs.Inspect.Appending
import Bytewise.Proofs.Buffer.Agreement
import Bytewise.Proofs.Inspect.HeaderBytes
import Bytewise.Proofs.Inspect.TextShare
import Bytewise.Proofs.Inspect.Grammar
import Bytewise.Proofs.Decimal.Nearest
import Bytewise.Proofs.Decimal.ReadBack
import Bytewise.Proofs.Decimal.Rounding
import Bytewise.Proofs.Decimal.Closest
import Bytewise.Proofs.Decimal.KeptDigits
import Bytewise.Proofs.Decimal.Monotone
import Bytewise.Proofs.Decimal.TiesToEven
import Bytewise.Proofs.Decimal.Overflow
import Bytewise.Proofs.ByteSize.Reading
import Bytewise.Proofs.ByteSize.Rendering
import Bytewise.Proofs.ByteSize.Order
import Bytewise.Proofs.Comparison.Percentage
import Bytewise.Proofs.Comparison.MoreDifferences
import Bytewise.Proofs.Json.Reader
import Bytewise.Proofs.Json.Strings
import Bytewise.Proofs.Json.Numbers
import Bytewise.Proofs.Json.RoundTrip
import Bytewise.Proofs.Report.Encode
import Bytewise.Proofs.Json.Sameness
import Bytewise.Proofs.Report.Faithful
import Bytewise.Proofs.Path.Spelling
import Bytewise.Proofs.FileTree.Loading
import Bytewise.Proofs.FileTree.Links
import Bytewise.Proofs.Report.DifferenceLines
import Bytewise.Proofs.CommandLine.JsonReport
import Bytewise.Proofs.CommandLine.PlainReport
import Bytewise.Proofs.Faults.Inspection
import Bytewise.Proofs.Faults.Loading
import Bytewise.Proofs.Faults.Comparison
import Bytewise.Proofs.Faults.Run
import Bytewise.Proofs.CommandLine.FrontEnds
import Bytewise.Proofs.CommandLine.Arguments
