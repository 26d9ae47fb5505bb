/-!
A bounded grid of characters. Cells lie row after row in one array, and a cell without a character
is blank. A canvas has at most `maxCells` cells; one that would have more is not created.
-/

namespace SequenceChart

/-- Why something cannot be drawn. -/
inductive CanvasError where
  /-- The number of cells has no 64-bit representation. -/
  | areaOverflow (width height : Nat)
  | tooLarge (width height : Nat)
  /-- The point lies outside the canvas of the given size. -/
  | outOfBounds (x y width height : Nat)
  deriving DecidableEq, Repr

/-- The greatest number of cells of a canvas. -/
def maxCells : Nat := 67108864

/-- The least number without a 64-bit representation. -/
def wordLimit : Nat := 18446744073709551616

def CanvasError.message : CanvasError → String
  | .areaOverflow width height => s!"canvas area overflow: {width}*{height}"
  | .tooLarge width height => s!"canvas too large: {width}x{height} exceeds {maxCells} cells"
  | .outOfBounds x y width height => s!"out of bounds: ({x},{y}) for {width}x{height} canvas"

structure Canvas where
  width : Nat
  height : Nat
  cells : Array (Option Char)
  size_cells : cells.size = width * height
  deriving DecidableEq

namespace Canvas

/-- A canvas on which all cells are blank. -/
def blank (width height : Nat) : Except CanvasError Canvas :=
  if wordLimit ≤ width * height then
    .error (.areaOverflow width height)
  else if maxCells < width * height then
    .error (.tooLarge width height)
  else
    .ok ⟨width, height, Array.replicate (width * height) none, Array.size_replicate⟩

/-- Whether a point lies on the canvas. -/
def contains (c : Canvas) (x y : Nat) : Bool :=
  x < c.width && y < c.height

/-- The character at a point. A point outside the canvas is as good as a blank cell. -/
def cell (c : Canvas) (x y : Nat) : Option Char :=
  if c.contains x y then (c.cells[y * c.width + x]?).join else none

/-- Writes a character at a point of the canvas and leaves a point outside it alone. -/
def put (c : Canvas) (x y : Nat) (ch : Char) : Canvas :=
  if c.contains x y then
    { c with
      cells := c.cells.setIfInBounds (y * c.width + x) (some ch)
      size_cells := by rw [Array.size_setIfInBounds]; exact c.size_cells }
  else
    c

/-- The rows from top to bottom. Blank cells are shown as spaces. -/
def rows (c : Canvas) : List String :=
  (List.range c.height).map fun y =>
    let row := c.cells.extract (y * c.width) ((y + 1) * c.width)
    String.ofList (row.toList.map (·.getD ' '))

/-- The whole grid cell by cell, with a line feed behind every row but the last. -/
def display (c : Canvas) : String :=
  (List.range c.height).foldl
    (fun out y =>
      let row := (List.range c.width).foldl
        (fun out x => out.push ((c.cells[y * c.width + x]?).join.getD ' ')) out
      if y + 1 < c.height then row.push '\n' else row)
    ""

instance : ToString Canvas where
  toString := display

end Canvas

end SequenceChart
