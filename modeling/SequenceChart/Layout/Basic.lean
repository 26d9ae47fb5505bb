import SequenceChart.Statement

/-!
The geometry of a chart: a column for each participant and a band of rows for each statement.
Columns and rows count from the top left corner of the drawing.
-/

namespace SequenceChart

inductive Direction where
  | leftToRight
  | rightToLeft
  | selfLoop
  deriving DecidableEq, Repr

/-- What a statement is anchored to. Participants are given by their columns' positions. -/
inductive Placement where
  | declaration
  | message (sender receiver : Nat)
  | note (participant : Nat) (side : Side)
  | space
  deriving DecidableEq, Repr

/-- Where the arrow of a message points, or `none` for a statement without an arrow. -/
def Placement.direction? : Placement → Option Direction
  | .message sender receiver =>
    if sender = receiver then some .selfLoop
    else if sender < receiver then some .leftToRight
    else some .rightToLeft
  | .declaration | .note .. | .space => none

/-- The place of a participant. All of it is measured from the lifeline, which stands in the middle
of the box. -/
structure Column where
  name : String
  lifeline : Nat
  /-- Columns of the box on either side of the lifeline. -/
  half : Nat
  /-- Columns to the left of the lifeline that the box and the notes on that side take. -/
  left : Nat
  /-- Columns from the lifeline on, itself included, that the box, the notes on that side and the
  messages to oneself take. -/
  right : Nat
  /-- The positions of the notes about the participant. -/
  notes : List Nat
  /-- The positions of the messages whose endpoint further left is the participant. -/
  messages : List Nat
  deriving DecidableEq, Repr

namespace Column

def boxStart (c : Column) : Nat := c.lifeline - c.half

/-- The column just behind the box. -/
def boxStop (c : Column) : Nat := c.lifeline + c.half + 1

def spanStart (c : Column) : Nat := c.lifeline - c.left

/-- The column just behind everything that stands at the lifeline. -/
def spanStop (c : Column) : Nat := c.lifeline + c.right

end Column

/-- The rows of a statement, from `top` to just before `bottom`. -/
structure Band where
  top : Nat
  bottom : Nat
  placement : Placement
  deriving DecidableEq, Repr

structure Layout where
  width : Nat
  height : Nat
  /-- The participants' columns from left to right. -/
  columns : List Column
  /-- The statements' bands from top to bottom. -/
  bands : List Band
  deriving DecidableEq, Repr

namespace Layout

/-- The position of the column with the given name. -/
def indexOf? (l : Layout) (name : String) : Option Nat :=
  l.columns.findIdx? (·.name == name)

def column? (l : Layout) (name : String) : Option Column :=
  l.columns.find? (·.name == name)

end Layout

end SequenceChart
