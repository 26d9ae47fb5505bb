/-!
The statements of a sequence chart. A diagram is a list of statements, and a statement is known by
its position in that list. Names and texts are arbitrary here: the reader lets only some of them
through, but placing and drawing are defined for all.
-/

namespace SequenceChart

/-- The side of a lifeline. -/
inductive Side where
  | left
  | right
  deriving DecidableEq, Repr

inductive Statement where
  /-- Gives participants their columns without drawing anything. -/
  | declare (names : List String)
  | message (sender receiver text : String)
  | note (side : Side) (participant text : String)
  /-- Leaves rows free. -/
  | space (gap : Nat)
  deriving DecidableEq, Repr

/-- The participants that a statement mentions, in order and with repetitions. -/
def Statement.mentions : Statement → List String
  | .declare names => names
  | .message sender receiver _ => [sender, receiver]
  | .note _ participant _ => [participant]
  | .space _ => []

abbrev Diagram := List Statement

end SequenceChart
