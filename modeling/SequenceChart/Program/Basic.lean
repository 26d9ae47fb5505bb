import SequenceChart.Statement

/-!
Programs: diagrams that remember which tokens their statements were read from.
-/

namespace SequenceChart

/-- A run of tokens in a token list. -/
structure TokenSpan where
  start : Nat := 0
  length : Nat := 0
  deriving DecidableEq, Repr

/-- The position just behind the run. -/
def TokenSpan.stop (s : TokenSpan) : Nat :=
  s.start + s.length

/-- The position of a statement in its diagram. -/
structure StatementId where
  index : Nat
  deriving DecidableEq, Repr

/-- Identifiers are shown with at least four digits. -/
instance : ToString StatementId where
  toString id := "s:" ++ String.ofList ((Nat.toDigits 10 id.index).leftpad 4 '0')

/-- The identifier of a statement of a diagram, or `none` where the diagram has no such
statement. -/
def Diagram.id? (d : Diagram) (index : Nat) : Option StatementId :=
  if index < d.length then some ⟨index⟩ else none

/-- A statement with its identifier and the tokens it was read from. -/
structure Entry where
  id : StatementId
  span : TokenSpan
  statement : Statement
  deriving DecidableEq, Repr

structure Program where
  /-- All the tokens read, those outside every statement included. -/
  span : TokenSpan
  entries : List Entry
  deriving DecidableEq, Repr

def Program.diagram (p : Program) : Diagram :=
  p.entries.map Entry.statement

end SequenceChart
