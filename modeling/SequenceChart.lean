import SequenceChart.Canvas.Basic
import SequenceChart.Canvas.Lemmas
import SequenceChart.Canvas.Stroke
import SequenceChart.Chart
import SequenceChart.CommandLine.FileTree
import SequenceChart.CommandLine.Host
import SequenceChart.CommandLine.Options
import SequenceChart.CommandLine.Run
import SequenceChart.Compile
import SequenceChart.Document.Format
import SequenceChart.Document.Html
import SequenceChart.Document.Json
import SequenceChart.Document.Text
import SequenceChart.Layout.Basic
import SequenceChart.Layout.Clearance
import SequenceChart.Layout.OfDiagram
import SequenceChart.Layout.Room
import SequenceChart.Main
import SequenceChart.Name
import SequenceChart.Program.Basic
import SequenceChart.Program.Body
import SequenceChart.Program.Error
import SequenceChart.Program.Parse
import SequenceChart.Program.Reader
import SequenceChart.Proofs.AllOrNothing
import SequenceChart.Proofs.Appending
import SequenceChart.Proofs.Bands
import SequenceChart.Proofs.Columns
import SequenceChart.Proofs.CommentModes
import SequenceChart.Proofs.CompiledText
import SequenceChart.Proofs.Derivation
import SequenceChart.Proofs.Extent
import SequenceChart.Proofs.FailurePosition
import SequenceChart.Proofs.FileWrites
import SequenceChart.Proofs.Fit
import SequenceChart.Proofs.Grammar
import SequenceChart.Proofs.Ink
import SequenceChart.Proofs.Lifelines
import SequenceChart.Proofs.LineBreaks
import SequenceChart.Proofs.Meaning
import SequenceChart.Proofs.Reading
import SequenceChart.Proofs.Segmentation
import SequenceChart.Proofs.Shown
import SequenceChart.Proofs.SourceLines
import SequenceChart.Proofs.Spacing
import SequenceChart.Proofs.TextDocument
import SequenceChart.Statement
import SequenceChart.Text.CodeRanges
import SequenceChart.Text.Lines
import SequenceChart.Text.Quoted
import SequenceChart.Text.WhiteSpace
import SequenceChart.Text.Word
import SequenceChart.Token.Basic
import SequenceChart.Token.Scan
import SequenceChart.Proofs.DrawingOrder
import SequenceChart.Proofs.Grid
import SequenceChart.Proofs.NormalForm
import SequenceChart.Proofs.Writing
import SequenceChart.Proofs.NoteDrawing
import SequenceChart.Proofs.MessageDrawing
import SequenceChart.Proofs.HeaderDrawing
import SequenceChart.Proofs.BoundingBox
import SequenceChart.Proofs.Leftmost
import SequenceChart.Proofs.Collection
import SequenceChart.Proofs.Rearranging
import SequenceChart.Proofs.Concatenation
import SequenceChart.Proofs.Spans
import SequenceChart.Proofs.Stacking
import SequenceChart.Proofs.Renaming
import SequenceChart.Proofs.HtmlDocument
import SequenceChart.Proofs.Arguments
import SequenceChart.Proofs.SeveralSources
import SequenceChart.Proofs.Trimming
import SequenceChart.Proofs.WellFormedness
import SequenceChart.Proofs.TrimmedDocument
import SequenceChart.Proofs.BlankLines
import SequenceChart.Proofs.JsonDocument
import SequenceChart.Proofs.Dossiers
import SequenceChart.Proofs.Sweep
