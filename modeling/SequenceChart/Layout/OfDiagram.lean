import SequenceChart.Layout.Basic
import SequenceChart.Layout.Clearance

/-!
The layout of a diagram. Participants stand in the order in which they are first mentioned, as
close together as the clearances allow; statements follow each other from top to bottom without
gaps.
-/

namespace SequenceChart

/-- The participants of a diagram in the order of their first mention. -/
def Diagram.participants (d : Diagram) : List String :=
  (d.flatMap Statement.mentions).eraseDups

namespace Statement

def placement (names : List String) : Statement → Placement
  | .declare _ => .declaration
  | .message sender receiver _ => .message (names.idxOf sender) (names.idxOf receiver)
  | .note side participant _ => .note (names.idxOf participant) side
  | .space _ => .space

/-- Columns to the left of a participant's lifeline that a statement takes. -/
def reachLeft (name : String) : Statement → Nat
  | .note .left participant text => if participant = name then noteWidth text + 1 else 0
  | _ => 0

/-- Columns from a participant's lifeline on that a statement takes at the participant. The arrow
and the text of a message to someone else lie between two lifelines and are not counted. -/
def reachRight (name : String) : Statement → Nat
  | .note .right participant text => if participant = name then noteWidth text + 2 else 0
  | .message sender receiver text =>
    if sender = name ∧ receiver = name then messageWidth text + 1 else 0
  | _ => 0

end Statement

namespace Placement

def isNoteAt (i : Nat) : Placement → Bool
  | .note participant _ => participant == i
  | _ => false

/-- Whether this is a message whose endpoint further left is participant `i`. -/
def isMessageFrom (i : Nat) : Placement → Bool
  | .message sender receiver => min sender receiver == i
  | _ => false

end Placement

namespace Layout

/-- The positions of the list's members that pass the test. -/
def positions {α : Type} (accepts : α → Bool) (xs : List α) : List Nat :=
  xs.zipIdx.filterMap fun (x, i) => if accepts x then some i else none

def leftReach (d : Diagram) (name : String) : Nat :=
  (d.map (Statement.reachLeft name)).foldr max (halfBox name)

def rightReach (d : Diagram) (name : String) : Nat :=
  (d.map (Statement.reachRight name)).foldr max (halfBox name + 1)

/-- The lifelines of all participants. The first one leaves room for what stands to its left, and
that is room enough for all of them. -/
def lifelines (d : Diagram) : List Nat :=
  let names := d.participants
  let first := ((names.head?).map (leftReach d)).getD 0
  Clearance.lifelines first (Clearance.ofDiagram names d) names.length

def columnOf (d : Diagram) (placements : List Placement) (i : Nat) (name : String)
    (lifeline : Nat) : Column where
  name := name
  lifeline := lifeline
  half := halfBox name
  left := leftReach d name
  right := rightReach d name
  notes := positions (·.isNoteAt i) placements
  messages := positions (·.isMessageFrom i) placements

def columnsOf (d : Diagram) : List Column :=
  let placements := d.map (Statement.placement d.participants)
  ((d.participants.zip (lifelines d)).zipIdx).map fun ((name, lifeline), i) =>
    columnOf d placements i name lifeline

/-- The bands of statements that start in row `top`. -/
def bandsFrom (names : List String) (top : Nat) : List Statement → List Band
  | [] => []
  | s :: rest =>
    ⟨top, top + s.rows, s.placement names⟩ :: bandsFrom names (top + s.rows) rest

def ofDiagram (d : Diagram) : Layout :=
  let columns := columnsOf d
  { width := (columns.map Column.spanStop).foldr max 0
    height := headerRows + d.rows + trailerRows
    columns := columns
    bands := bandsFrom d.participants headerRows d }

end Layout

end SequenceChart
