import SequenceChart.Statement
import SequenceChart.Text.Lines
import SequenceChart.Text.WhiteSpace

/-!
How many columns and rows the parts of a chart need. Placing and drawing both measure with these
functions, so a drawing fits the place it was given.
-/

namespace SequenceChart

/-! Sizes of texts. A character takes one column. -/

/-- The lines of a text as drawn. The empty text has none. -/
def textLines (text : String) : List String :=
  if text = "" then [] else (Text.splitLines text).map Text.trim

def longestLine (text : String) : Nat :=
  ((textLines text).map String.length).foldr max 0

/-- Columns that the frame of a note and the blanks inside it add to its longest line. -/
def noteMargin : Nat := 4

/-- Columns that a message leaves free beside its longest line. -/
def messageMargin : Nat := 2

/-- The width of a note with its frame, without the leader between frame and lifeline. -/
def noteWidth (text : String) : Nat :=
  longestLine text + noteMargin

def messageWidth (text : String) : Nat :=
  longestLine text + messageMargin

def noteRows (text : String) : Nat :=
  (textLines text).length + 2

/-- A message has a free row above its text and its arrow below. -/
def messageRows (text : String) : Nat :=
  (textLines text).length + 2

/-- A message to oneself leaves and comes back below its text, with a row between. -/
def selfMessageRows (text : String) : Nat :=
  (textLines text).length + 4

/-! Sizes of participants. -/

/-- Rows of the boxes above the first statement. -/
def headerRows : Nat := 3

/-- Rows of lifeline below the last statement. -/
def trailerRows : Nat := 1

/-- The columns of a box on either side of the lifeline. They hold the name, a blank and the frame;
a name of even length has one blank more on its right. -/
def halfBox (name : String) : Nat :=
  name.length / 2 + 2

/-- The width of a box. It is odd, so that the lifeline stands in the middle. -/
def boxWidth (name : String) : Nat :=
  2 * halfBox name + 1

/-- The rows that a statement takes below the one before it. -/
def Statement.rows : Statement → Nat
  | .declare _ => 0
  | .message sender receiver text =>
    if sender = receiver then selfMessageRows text else messageRows text
  | .note _ _ text => noteRows text
  | .space gap => gap

/-- The rows that all statements take together. -/
def Diagram.rows : Diagram → Nat
  | [] => 0
  | s :: d => s.rows + Diagram.rows d

end SequenceChart
