import SequenceChart.Layout.Room

/-!
How far apart lifelines have to stand. Every demand on the width of a chart is a clearance, the
least distance between the lifelines of two participants. Boxes demand one between neighbours; a
note or a message to oneself demands one towards the neighbour on its side, and a message between
two participants demands one between the two, whatever stands in the middle.
-/

namespace SequenceChart

/-- The lifeline of participant `after` stands at least `distance` columns to the right of the
lifeline of participant `before`. -/
structure Clearance where
  before : Nat
  after : Nat
  distance : Nat
  deriving DecidableEq, Repr

namespace Clearance

/-- The half box of the participant at a position. -/
def halfAt (names : List String) (i : Nat) : Nat :=
  (names[i]?.map halfBox).getD 0

/-- Boxes of neighbours have a free column between them. -/
def ofBoxes (names : List String) : List Clearance :=
  (List.range (names.length - 1)).map fun i =>
    ⟨i, i + 1, halfAt names i + 2 + halfAt names (i + 1)⟩

/-- The clearances that a statement demands. What stands right of a lifeline ends before the next
box, and a note on the left has a free column between itself and the lifeline before. -/
def ofStatement (names : List String) : Statement → List Clearance
  | .declare _ | .space _ => []
  | .note .left participant text =>
    match names.idxOf participant with
    | 0 => []
    | i + 1 => [⟨i, i + 1, noteWidth text + 2⟩]
  | .note .right participant text =>
    let i := names.idxOf participant
    [⟨i, i + 1, noteWidth text + 1 + halfAt names (i + 1)⟩]
  | .message sender receiver text =>
    let i := names.idxOf sender
    let j := names.idxOf receiver
    let far := if i = j then i + 1 else max i j
    [⟨min i j, far, messageWidth text + 1 + halfAt names far⟩]

def ofDiagram (names : List String) (d : Diagram) : List Clearance :=
  ofBoxes names ++ d.flatMap (ofStatement names)

/-- The leftmost place for the lifeline to the right of those already placed. -/
def nextLifeline (first : Nat) (clearances : List Clearance) (placed : List Nat) : Nat :=
  ((clearances.filter (·.after = placed.length)).map fun c =>
    (placed[c.before]?).getD 0 + c.distance).foldr max first

/-- The lifelines of the first `n` participants, each as far left as the clearances allow, where
the leftmost one stands in column `first`. -/
def lifelines (first : Nat) (clearances : List Clearance) : Nat → List Nat
  | 0 => []
  | n + 1 =>
    let placed := lifelines first clearances n
    placed ++ [nextLifeline first clearances placed]

end Clearance

end SequenceChart
