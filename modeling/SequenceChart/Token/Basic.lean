/-!
The tokens of a chart description. A token is a kind and the exact text it stands for; the kind
alone decides what the reader may do with it.
-/

namespace SequenceChart

/-- The lexical class of a token. -/
inductive Token.Kind where
  | word
  | arrow
  | colon
  | semicolon
  | newline
  | space
  | eof
  deriving DecidableEq, Repr

structure Token where
  kind : Token.Kind
  text : String
  deriving DecidableEq, Repr

namespace Token

/-- Whether a token of this kind closes the statement before it. -/
def Kind.endsStatement : Kind → Bool
  | .semicolon | .newline | .eof => true
  | .word | .arrow | .colon | .space => false

/-- The token that stands for the end of the input. -/
def endOfInput : Token := ⟨.eof, ""⟩

/-- Whether this is the given word. A token of another kind is no word, whatever its text. -/
def isWord (t : Token) (text : String) : Bool :=
  t.kind == .word && t.text == text

/-- How an error message names the token. -/
def display (t : Token) : String :=
  match t.kind with
  | .eof => "<eof>"
  | .newline => "<newline>"
  | .word | .arrow | .colon | .semicolon | .space => t.text

end Token

end SequenceChart
