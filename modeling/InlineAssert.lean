import InlineAssert.Allocation
import InlineAssert.Arena
import InlineAssert.Bytes
import InlineAssert.CharSet
import InlineAssert.Check
import InlineAssert.Command
import InlineAssert.CommandLine
import InlineAssert.Comment
import InlineAssert.Config
import InlineAssert.Console
import InlineAssert.Cursor
import InlineAssert.CursorScanner
import InlineAssert.Directive
import InlineAssert.Disk
import InlineAssert.IndexedMap
import InlineAssert.KeyIndex
import InlineAssert.LineTable
import InlineAssert.LogFilter
import InlineAssert.Main
import InlineAssert.Matcher
import InlineAssert.Measurement
import InlineAssert.Measurement.Json
import InlineAssert.OrderedMap
import InlineAssert.Outline
import InlineAssert.Path
import InlineAssert.Pattern
import InlineAssert.Pattern.Encoding
import InlineAssert.Pattern.Expr
import InlineAssert.Pattern.Footprint
import InlineAssert.Pattern.Form
import InlineAssert.Pattern.Layout
import InlineAssert.Pattern.Layout.Sharing
import InlineAssert.Pattern.Layout.Words
import InlineAssert.Pattern.Named
import InlineAssert.Pattern.Program
import InlineAssert.Pattern.Reader
import InlineAssert.Pattern.Token
import InlineAssert.Proofs.Annotation
import InlineAssert.Proofs.Arena
import InlineAssert.Proofs.Attribution
import InlineAssert.Proofs.Averages
import InlineAssert.Proofs.Conservation
import InlineAssert.Proofs.Cursor
import InlineAssert.Proofs.Cutting
import InlineAssert.Proofs.CuttingSteps
import InlineAssert.Proofs.Decimal
import InlineAssert.Proofs.Earliest
import InlineAssert.Proofs.Encoding
import InlineAssert.Proofs.FailureText
import InlineAssert.Proofs.FirstLine
import InlineAssert.Proofs.Fragment
import InlineAssert.Proofs.Grammar
import InlineAssert.Proofs.Grouping
import InlineAssert.Proofs.Handles
import InlineAssert.Proofs.IndexedMap
import InlineAssert.Proofs.Indexing
import InlineAssert.Proofs.Interleaving
import InlineAssert.Proofs.Leftmost
import InlineAssert.Proofs.LineEndings
import InlineAssert.Proofs.Lines
import InlineAssert.Proofs.Listing
import InlineAssert.Proofs.Literal
import InlineAssert.Proofs.Locality
import InlineAssert.Proofs.Location
import InlineAssert.Proofs.Merge
import InlineAssert.Proofs.Naming
import InlineAssert.Proofs.Nesting
import InlineAssert.Proofs.Numbering
import InlineAssert.Proofs.OrderedMap
import InlineAssert.Proofs.Outcome
import InlineAssert.Proofs.Passes
import InlineAssert.Proofs.Placement
import InlineAssert.Proofs.Places
import InlineAssert.Proofs.Precedence
import InlineAssert.Proofs.Queries
import InlineAssert.Proofs.Quotes
import InlineAssert.Proofs.Ranges
import InlineAssert.Proofs.Reading
import InlineAssert.Proofs.Rejection
import InlineAssert.Proofs.Remainder
import InlineAssert.Proofs.Reporting
import InlineAssert.Proofs.Resolution
import InlineAssert.Proofs.Sameness
import InlineAssert.Proofs.Search
import InlineAssert.Proofs.Selection
import InlineAssert.Proofs.Sequence
import InlineAssert.Proofs.Template
import InlineAssert.Proofs.Tiling
import InlineAssert.Proofs.Tour
import InlineAssert.Proofs.Traversal
import InlineAssert.Proofs.Truncation
import InlineAssert.Proofs.Unanswered
import InlineAssert.Proofs.Unclosed
import InlineAssert.Proofs.Verbatim
import InlineAssert.Proofs.Verdict
import InlineAssert.Proofs.Visit
import InlineAssert.Proofs.Walk
import InlineAssert.Proofs.Windows
import InlineAssert.Quoted
import InlineAssert.Range
import InlineAssert.Report
import InlineAssert.Scanner
import InlineAssert.Table
import InlineAssert.TestCase
import InlineAssert.Text
import InlineAssert.Tree
import InlineAssert.Unicode.Age
import InlineAssert.Unicode.Break
import InlineAssert.Unicode.CaseFold
import InlineAssert.Unicode.Category
import InlineAssert.Unicode.Latest
import InlineAssert.Unicode.Property
import InlineAssert.Unicode.Script
