import SequenceChart.Chart
import SequenceChart.Layout.OfDiagram
import SequenceChart.Program.Parse

/-!
From a source text to a drawing: read the program, lay out its diagram, draw it. There is either a
whole drawing or an error.
-/

namespace SequenceChart

inductive CompileError where
  | parse (e : ParseError)
  | canvas (e : CanvasError)
  deriving DecidableEq, Repr

namespace CompileError

/-- What is to blame for an error: the form of the source, a construct that charts do not have, or
the size of the drawing. -/
inductive Kind where
  | syntaxError
  | unsupportedConstruct
  | internal
  deriving DecidableEq, Repr

def kind : CompileError → Kind
  | .parse (.unsupported ..) => .unsupportedConstruct
  | .parse (.unexpected ..) | .parse (.invalidGap ..) => .syntaxError
  | .canvas _ => .internal

/-- The message of the parse error or canvas error behind this error. -/
def cause : CompileError → String
  | .parse e => e.message
  | .canvas e => e.message

def message : CompileError → String
  | .parse e => e.message
  | .canvas e => "render failed: " ++ e.message

end CompileError

/-- A drawing together with what it was made from. -/
structure Compiled where
  program : Program
  layout : Layout
  canvas : Canvas

def compile (mode : CommentNewline) (source : String) : Except CompileError Compiled := do
  let program ← (Program.ofSource mode source).mapError .parse
  let layout := Layout.ofDiagram program.diagram
  let canvas ← (layout.render program.diagram).mapError .canvas
  return ⟨program, layout, canvas⟩

end SequenceChart
