import SequenceChart.Canvas.Stroke
import SequenceChart.Layout.Basic
import SequenceChart.Layout.Room

/-!
The strokes of a chart. First come the boxes, then the lifelines, then the statements in order, so
the marks of a statement lie on the lifelines that it crosses. The layout need not be that of the
diagram: participants are looked up by name and statements by position, and what is not found is
not drawn.
-/

namespace SequenceChart

namespace Column

/-- The box of a participant with the name inside. -/
def header (c : Column) : List Stroke :=
  [.frame c.boxStart 0 (c.boxStop - 1) (headerRows - 1), .text (c.boxStart + 2) 1 c.name]

/-- The lifeline from below the box to the last row of the chart. -/
def line (c : Column) (height : Nat) : Stroke :=
  .vline c.lifeline headerRows (height - 1) Glyph.vertical

end Column

namespace Layout

def lifelineOf? (l : Layout) (name : String) : Option Nat :=
  (l.column? name).map Column.lifeline

end Layout

namespace Statement

/-- The lines of a text, one below the other from row `top` on, each starting in the column that
`start` gives for it. -/
def textStrokes (start : String → Nat) (top : Nat) (text : String) : List Stroke :=
  (textLines text).zipIdx.map fun (line, k) => .text (start line) (top + k) line

/-- A message to a lifeline further right. Its text starts behind the sender's lifeline, and its
arrow fills the last row of the band between the two lifelines. -/
def rightwardStrokes (sender receiver : Nat) (band : Band) (text : String) : List Stroke :=
  let arrow := band.bottom - 1
  textStrokes (fun _ => sender + 2) (band.top + 1) text ++
    [.hline (sender + 1) (receiver - 1) arrow Glyph.horizontal,
     .glyph (receiver - 1) arrow Glyph.arrowRight]

/-- A message to a lifeline further left. Each line of its text ends before the sender's
lifeline. -/
def leftwardStrokes (sender receiver : Nat) (band : Band) (text : String) : List Stroke :=
  let arrow := band.bottom - 1
  textStrokes (fun line => sender - 1 - line.length) (band.top + 1) text ++
    [.hline (receiver + 1) (sender - 1) arrow Glyph.horizontal,
     .glyph (receiver + 1) arrow Glyph.arrowLeft]

/-- A message to oneself. It leaves the lifeline below its text and comes back two rows further
down. -/
def selfStrokes (lifeline : Nat) (band : Band) (text : String) : List Stroke :=
  let turn := lifeline + messageWidth text
  let leave := band.top + 1 + (textLines text).length
  textStrokes (fun _ => lifeline + 2) (band.top + 1) text ++
    [.hline (lifeline + 1) turn leave Glyph.horizontal,
     .glyph turn (leave + 1) Glyph.vertical,
     .hline (lifeline + 1) turn (leave + 2) Glyph.horizontal,
     .glyph (lifeline + 1) (leave + 2) Glyph.arrowLeft]

/-- A note beside a lifeline. The upper corner of its frame that is nearer to the lifeline is
folded, and a leader joins the frame to the lifeline. -/
def noteStrokes (side : Side) (lifeline : Nat) (band : Band) (text : String) : List Stroke :=
  let start := match side with
    | .left => lifeline - 1 - noteWidth text
    | .right => lifeline + 2
  let stop := start + noteWidth text - 1
  let bottom := band.bottom - 1
  let fold : Stroke := match side with
    | .left => .glyph stop band.top Glyph.foldLeft
    | .right => .glyph start band.top Glyph.foldRight
  let leader := match side with
    | .left => lifeline - 1
    | .right => lifeline + 1
  [.frame start band.top stop bottom, fold] ++
    textStrokes (fun _ => start + 2) (band.top + 1) text ++
    [.glyph leader (min (band.top + 1) bottom) Glyph.horizontal]

/-- What a statement draws in its band. -/
def strokes (l : Layout) (band : Band) : Statement → List Stroke
  | .declare _ | .space _ => []
  | .message sender receiver text =>
    match l.lifelineOf? sender, l.lifelineOf? receiver with
    | some x, some y =>
      if sender = receiver then selfStrokes x band text
      else if x < y then rightwardStrokes x y band text
      else leftwardStrokes x y band text
    | _, _ => []
  | .note side participant text =>
    match l.lifelineOf? participant with
    | some x => noteStrokes side x band text
    | none => []

end Statement

namespace Layout

/-- Everything drawn before the first statement. -/
def frameStrokes (l : Layout) : List Stroke :=
  l.columns.flatMap Column.header ++ l.columns.map (·.line l.height)

/-- The strokes of a diagram in the places that the layout gives. -/
def strokes (l : Layout) (d : Diagram) : List Stroke :=
  l.frameStrokes ++ (d.zip l.bands).flatMap fun (s, band) => s.strokes l band

/-- Draws a diagram on a new canvas of the size of the layout. -/
def render (l : Layout) (d : Diagram) : Except CanvasError Canvas := do
  let canvas ← Canvas.blank l.width l.height
  canvas.draw (l.strokes d)

end Layout

end SequenceChart
