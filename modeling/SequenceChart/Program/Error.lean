import SequenceChart.Text.Quoted

/-!
Why a token list is no program. Every error names the position of one token.
-/

namespace SequenceChart

/-- The greatest gap that a space statement may ask for. -/
def maxGap : Nat := 4294967295

inductive ParseError where
  /-- No statement can go on with the token at this position. -/
  | unexpected (index : Nat) (found : String)
  /-- A block starts at this position. -/
  | unsupported (index : Nat) (keyword : String)
  /-- The number at this position is no gap. -/
  | invalidGap (index : Nat) (text : String)
  deriving DecidableEq, Repr

namespace ParseError

def tokenIndex : ParseError → Nat
  | .unexpected index _ | .unsupported index _ | .invalidGap index _ => index

/-- Whether the tokens fail to fit the grammar. A block fits it and is refused all the same. -/
def isSyntax : ParseError → Bool
  | .unexpected .. | .invalidGap .. => true
  | .unsupported .. => false

def message : ParseError → String
  | .unexpected index found => s!"syntax error at token {index}: unexpected {Text.quote found}"
  | .unsupported index keyword =>
    s!"unsupported construct at token {index}: '{keyword}' blocks cannot be laid out"
  | .invalidGap index text =>
    s!"invalid space gap at token {index}: {Text.quote text} " ++
      s!"(expected an integer up to {maxGap})"

end ParseError

end SequenceChart
