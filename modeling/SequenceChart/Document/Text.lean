import SequenceChart.Canvas.Basic
import SequenceChart.Text.Lines
import SequenceChart.Text.WhiteSpace

/-!
A canvas as plain text: its rows joined by line feeds, without one at the end.
-/

namespace SequenceChart.Document

/-- All rows in full width. -/
def text (c : Canvas) : String :=
  Text.joinLines c.rows

def trimRow (row : String) : String :=
  String.ofList (Text.dropTrailing (· == ' ') row.toList)

/-- The rows without the blanks at their ends and without the empty rows at the bottom. -/
def trimmedText (c : Canvas) : String :=
  Text.joinLines (Text.dropTrailing (· == "") (c.rows.map trimRow))

end SequenceChart.Document
