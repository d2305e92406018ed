import CaseChart.Text.Case
import CaseChart.Text.Lines
import CaseChart.Text.Margin
import CaseChart.Text.Utf8
import CaseChart.Decimal.Binary
import CaseChart.Decimal.Digits
import CaseChart.Decimal.Layout
import CaseChart.Decimal.Reader
import CaseChart.Json.Reader
import CaseChart.Json.Writer
import CaseChart.Chart.Report
import CaseChart.Publication.Civil
import CaseChart.Publication.Gate
import CaseChart.Document.Intake
import CaseChart.Document.Extraction
import CaseChart.Throttle.Admission
import CaseChart.Throttle.Pruning
import CaseChart.Settings.Basic
import CaseChart.Journal.Correlation
import CaseChart.Journal.Console
import CaseChart.Journal.Attributes
import CaseChart.Chart.Sources
import CaseChart.Registry
import CaseChart.Http.App
import CaseChart.Http.Draft
import CaseChart.Http.Layers
import CaseChart.Proofs.Firsts
import CaseChart.Proofs.Text.Trim
import CaseChart.Proofs.Text.Lines
import CaseChart.Proofs.Text.Margin
import CaseChart.Proofs.Text.Word
import CaseChart.Proofs.Text.Split
import CaseChart.Proofs.Chart.Header
import CaseChart.Proofs.Chart.Statement
import CaseChart.Proofs.Chart.Sections
import CaseChart.Proofs.Chart.Readback
import CaseChart.Proofs.Chart.Remerge
import CaseChart.Proofs.Chart.Grammar
import CaseChart.Proofs.Chart.GrammarLines
import CaseChart.Proofs.Chart.GrammarMerge
import CaseChart.Proofs.Chart.Lexeme
import CaseChart.Proofs.Text.Case
import CaseChart.Proofs.Text.Runs
import CaseChart.Proofs.Chart.Facts
import CaseChart.Proofs.Chart.Pairing
import CaseChart.Proofs.Chart.Partition
import CaseChart.Proofs.Chart.Spacing
import CaseChart.Proofs.Chart.Verdict
import CaseChart.Proofs.Chart.Blocks
import CaseChart.Proofs.Chart.LineEndings
import CaseChart.Proofs.Chart.Errors
import CaseChart.Proofs.Chart.Content
import CaseChart.Proofs.Chart.Tally
import CaseChart.Proofs.Chart.Reordering
import CaseChart.Proofs.Chart.Validity
import CaseChart.Proofs.Chart.Trimmed
import CaseChart.Proofs.Chart.Keywords
import CaseChart.Proofs.Chart.Declared
import CaseChart.Proofs.Chart.GrammarSpelling
import CaseChart.Proofs.Chart.GrammarVerdict
import CaseChart.Proofs.Entries
import CaseChart.Proofs.Throttle.Run
import CaseChart.Proofs.Throttle.Openings
import CaseChart.Proofs.Throttle.Windows
import CaseChart.Proofs.Throttle.Pruning
import CaseChart.Proofs.Throttle.Passes
import CaseChart.Proofs.Throttle.Bursts
import CaseChart.Proofs.Throttle.Waiting
import CaseChart.Proofs.Throttle.Isolation
import CaseChart.Proofs.Http.Run
import CaseChart.Proofs.Http.Throttling
import CaseChart.Proofs.Http.Correlation
import CaseChart.Proofs.Publication.Payload
import CaseChart.Proofs.Publication.Path
import CaseChart.Proofs.Publication.Calendar
import CaseChart.Proofs.Publication.Gate
import CaseChart.Proofs.Publication.Fence
import CaseChart.Proofs.Publication.Stamp
import CaseChart.Proofs.Chart.Token
import CaseChart.Proofs.Chart.Additive
import CaseChart.Proofs.Text.Utf8
import CaseChart.Proofs.Document.Extension
import CaseChart.Proofs.Document.Intake
import CaseChart.Proofs.Document.Extraction
import CaseChart.Proofs.Guard
import CaseChart.Proofs.Decimal.Layout
import CaseChart.Proofs.Journal.Line
import CaseChart.Proofs.Journal.Context
import CaseChart.Proofs.Journal.Correlation
