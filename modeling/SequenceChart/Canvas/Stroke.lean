import SequenceChart.Canvas.Basic

/-!
Strokes, the only way to put something on a canvas. A stroke that would leave the canvas fails and
names a point outside it; what it finds out before it writes is that its outermost points are on
the canvas.
-/

namespace SequenceChart

/-! The characters of a drawing. -/

namespace Glyph

def corner : Char := '+'

def horizontal : Char := '-'

def vertical : Char := '|'

def arrowRight : Char := '>'

def arrowLeft : Char := '<'

/-- The folded corner of a note to the right of its lifeline. -/
def foldRight : Char := '/'

/-- The folded corner of a note to the left of its lifeline. -/
def foldLeft : Char := '\\'

end Glyph

/-- A computation on a canvas. A failure keeps what has been drawn before it. -/
abbrev Drawing := EStateM CanvasError Canvas

namespace Drawing

/-- Fails unless the point lies on the canvas. -/
def check (x y : Nat) : Drawing Unit := do
  let c ← get
  unless c.contains x y do
    throw (.outOfBounds x y c.width c.height)

def read (x y : Nat) : Drawing (Option Char) := do
  check x y
  return (← get).cell x y

def set (x y : Nat) (ch : Char) : Drawing Unit := do
  check x y
  modify (·.put x y ch)

/-- Sets `n` cells from a point to the right. -/
def setRight (x y : Nat) (ch : Char) : Nat → Drawing Unit
  | 0 => return
  | n + 1 => do
    set x y ch
    setRight (x + 1) y ch n

/-- Sets `n` cells from a point downwards. -/
def setDown (x y : Nat) (ch : Char) : Nat → Drawing Unit
  | 0 => return
  | n + 1 => do
    set x y ch
    setDown x (y + 1) ch n

/-- Sets the characters of a text from a point to the right, but none for a space. -/
def setChars (x y : Nat) : List Char → Drawing Unit
  | [] => return
  | ch :: chs => do
    unless ch = ' ' do
      set x y ch
    setChars (x + 1) y chs

/-- Writes a text. Its last character must fall on the canvas, also where it is a space. -/
def text (x y : Nat) (s : String) : Drawing Unit := do
  unless s = "" do
    check (x + s.length - 1) y
    setChars x y s.toList

/-- Fills the columns from one end to the other, both included, in either order. -/
def hline (x0 x1 y : Nat) (ch : Char) : Drawing Unit := do
  let left := min x0 x1
  let right := max x0 x1
  check left y
  check right y
  setRight left y ch (right - left + 1)

/-- Fills the rows from one end to the other, both included, in either order. -/
def vline (x y0 y1 : Nat) (ch : Char) : Drawing Unit := do
  let top := min y0 y1
  let bottom := max y0 y1
  check x top
  check x bottom
  setDown x top ch (bottom - top + 1)

/-- Draws a frame between two opposite corners. A frame of one column or row is a line. -/
def frame (x0 y0 x1 y1 : Nat) : Drawing Unit := do
  let left := min x0 x1
  let right := max x0 x1
  let top := min y0 y1
  let bottom := max y0 y1
  check right bottom
  if left = right then
    vline left top bottom Glyph.vertical
  else if top = bottom then
    hline left right top Glyph.horizontal
  else
    hline left right top Glyph.horizontal
    hline left right bottom Glyph.horizontal
    vline left top bottom Glyph.vertical
    vline right top bottom Glyph.vertical
    set left top Glyph.corner
    set right top Glyph.corner
    set left bottom Glyph.corner
    set right bottom Glyph.corner

end Drawing

inductive Stroke where
  | glyph (x y : Nat) (ch : Char)
  | text (x y : Nat) (s : String)
  | hline (x0 x1 y : Nat) (ch : Char)
  | vline (x y0 y1 : Nat) (ch : Char)
  | frame (x0 y0 x1 y1 : Nat)
  deriving DecidableEq, Repr

def Stroke.draw : Stroke → Drawing Unit
  | .glyph x y ch => Drawing.set x y ch
  | .text x y s => Drawing.text x y s
  | .hline x0 x1 y ch => Drawing.hline x0 x1 y ch
  | .vline x y0 y1 ch => Drawing.vline x y0 y1 ch
  | .frame x0 y0 x1 y1 => Drawing.frame x0 y0 x1 y1

/-- Draws strokes one after the other, up to the first that fails. -/
def Canvas.draw (c : Canvas) (strokes : List Stroke) : Except CanvasError Canvas :=
  match (strokes.forM Stroke.draw).run c with
  | .ok _ drawn => .ok drawn
  | .error e _ => .error e

end SequenceChart
