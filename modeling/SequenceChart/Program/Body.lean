import SequenceChart.Text.Lines
import SequenceChart.Text.WhiteSpace
import SequenceChart.Token.Basic

/-!
The text of a message or a note. It is written in one line of the source: a backslash before the
letter n stands for a line break. A text in normal form has trimmed lines, and neither its first
nor its last line is blank.
-/

namespace SequenceChart.Body

/-- What stands for a line break inside a text. -/
def lineBreakMarker : String := "\\n"

/-- The pieces of a text between its line break markers, never none. -/
def splitMarkers : List Char → List (List Char)
  | [] => [[]]
  | '\\' :: 'n' :: cs => [] :: splitMarkers cs
  | c :: cs => (splitMarkers cs).modifyHead (c :: ·)

/-- Leaves out the empty lines before the first and behind the last line that is not empty. -/
def dropEmptyEdges (lines : List String) : List String :=
  Text.dropTrailing (· == "") (lines.dropWhile (· == ""))

/-- The lines of a text as written: cut at the markers, trimmed, without empty edges. -/
def lines (raw : String) : List String :=
  dropEmptyEdges ((splitMarkers raw.toList).map fun cs => Text.trim (String.ofList cs))

def normalize (raw : String) : String :=
  Text.joinLines (lines raw)

/-- What a token contributes to a text. A tab counts as one blank. -/
def tokenText (t : Token) : String :=
  if t.kind = .space then " " else t.text

/-- The normalised text that a run of tokens spells. -/
def ofTokens (ts : List Token) : String :=
  normalize (String.join (ts.map tokenText))

end SequenceChart.Body
