import SequenceChart.Program.Reader
import SequenceChart.Token.Scan

/-!
Reading whole programs. A statement starts at a word; tokens of any other kind between statements
are passed over. The first statement that cannot be read decides the error.
-/

namespace SequenceChart

/-- A refusal within a statement as an error of the program, for a statement that starts at token
`start` with the tokens `ts` before it. -/
def Refusal.toError (start : Nat) (ts : List Token) : Refusal → ParseError
  | .noMatch offset =>
    .unexpected (start + offset) ((ts[offset]?.getD Token.endOfInput).display)
  | .unsupported offset keyword => .unsupported (start + offset) keyword
  | .invalidGap offset text => .invalidGap (start + offset) text

namespace Program

/-- The statements of a token list whose first token has position `start`, where `index`
statements come before. -/
def entriesFrom (start index : Nat) : List Token → Except ParseError (List Entry)
  | [] => .ok []
  | t :: ts =>
    if t.kind = .word then
      match Reader.statement t.text ⟨0, t :: ts⟩ with
      | .error refusal => .error (refusal.toError start (t :: ts))
      | .ok (s, c) => do
        -- The leading word at least is taken, so the rest is a part of `ts`.
        let others ← entriesFrom (start + c.taken) (index + 1) (ts.drop (c.taken - 1))
        .ok (⟨⟨index⟩, ⟨start, c.taken⟩, s⟩ :: others)
    else
      entriesFrom (start + 1) index ts
termination_by ts => ts.length

def ofTokens (ts : List Token) : Except ParseError Program := do
  return ⟨⟨0, ts.length⟩, ← entriesFrom 0 0 ts⟩

def ofSource (mode : CommentNewline) (source : String) : Except ParseError Program :=
  ofTokens (Token.scan mode source)

end Program

end SequenceChart
