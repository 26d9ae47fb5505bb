import SequenceChart.Name
import SequenceChart.Program.Basic
import SequenceChart.Program.Body
import SequenceChart.Program.Error
import SequenceChart.Token.Basic

/-!
Readers of single statements. A reader takes tokens from the front of a list or refuses at an
offset, and offsets count from the first token of the statement, so what a reader does with a
statement does not depend on where the statement stands. The rules of the grammar are the readers
`declaration`, `message`, `note`, `space` and `block`; `statement` chooses among them by the leading
word.
-/

namespace SequenceChart

/-- Why no statement could be read. -/
inductive Refusal where
  /-- The token at this offset does not fit. -/
  | noMatch (offset : Nat)
  | unsupported (offset : Nat) (keyword : String)
  | invalidGap (offset : Nat) (text : String)
  deriving DecidableEq, Repr

/-- How many tokens of the statement have been taken, and the tokens behind them. -/
structure Cursor where
  taken : Nat
  rest : List Token
  deriving DecidableEq, Repr

def Cursor.advance (c : Cursor) (n : Nat) : Cursor :=
  ⟨c.taken + n, c.rest.drop n⟩

abbrev Reader := StateT Cursor (Except Refusal)

namespace Reader

/-- Refuses the next token. -/
def refuse {α : Type} : Reader α := do
  throw (.noMatch (← get).taken)

def skipSpaces : Reader Unit :=
  modify fun c => c.advance (c.rest.takeWhile (·.kind == .space)).length

/-- Takes the next token that is no space if it passes the test. -/
def take (accepts : Token → Bool) : Reader Token := do
  skipSpaces
  let c ← get
  match c.rest with
  | t :: _ =>
    if accepts t then
      set (c.advance 1)
      return t
    else
      refuse
  | [] => refuse

def keyword (word : String) : Reader Unit := do
  let _ ← take (·.isWord word)

def symbol (kind : Token.Kind) : Reader Unit := do
  let _ ← take (·.kind == kind)

def isName (t : Token) : Bool :=
  t.kind == .word && decide (Name.Valid t.text)

def name : Reader String := do
  return (← take isName).text

/-- The names up to the end of the statement, from `taken` tokens on. -/
def namesUpToEnd (taken : Nat) : List Token → Except Refusal (List String × Cursor)
  | [] => .ok ([], ⟨taken, []⟩)
  | t :: ts =>
    if t.kind = .space then
      namesUpToEnd (taken + 1) ts
    else if t.kind.endsStatement then
      .ok ([], ⟨taken, t :: ts⟩)
    else if isName t then do
      let (names, c) ← namesUpToEnd (taken + 1) ts
      .ok (t.text :: names, c)
    else
      .error (.noMatch taken)

def names : Reader (List String) :=
  fun c => namesUpToEnd c.taken c.rest

/-- Takes the token that ends a statement. Where the list ends there is none to take. -/
def endOfStatement : Reader Unit := do
  skipSpaces
  let c ← get
  match c.rest with
  | t :: _ => if t.kind.endsStatement then set (c.advance 1) else refuse
  | [] => return

/-- Takes a text, up to the end of the statement but without the token that ends it. -/
def body : Reader String := do
  skipSpaces
  let c ← get
  let tokens := c.rest.takeWhile (!·.kind.endsStatement)
  set (c.advance tokens.length)
  return Body.ofTokens tokens

/-- The text behind a colon, or the empty text where there is no colon. -/
def label : Reader String := do
  skipSpaces
  let c ← get
  match c.rest with
  | t :: _ =>
    if t.kind = .colon then
      set (c.advance 1)
      body
    else
      return ""
  | [] => return ""

/-- The value of a run of decimal digits as a gap. -/
def gap? (digits : List Char) : Option Nat :=
  let value := digits.foldl (fun n d => 10 * n + (d.toNat - '0'.toNat)) 0
  if digits = [] ∨ maxGap < value then none else some value

def isDigits (t : Token) : Bool :=
  t.kind == .word && t.text.toList.all Char.isDigit

def gap : Reader Nat := do
  let t ← take isDigits
  match gap? t.text.toList with
  | some n => return n
  | none => throw (.invalidGap ((← get).taken - 1) t.text)

def declaration : Reader Statement := do
  keyword "object"
  let first ← name
  let others ← names
  endOfStatement
  return .declare (first :: others)

def message : Reader Statement := do
  let sender ← name
  symbol .arrow
  let receiver ← name
  let text ← label
  endOfStatement
  return .message sender receiver text

def sideWord : Side → String
  | .left => "left"
  | .right => "right"

def note (side : Side) : Reader Statement := do
  keyword (sideWord side)
  keyword "of"
  let participant ← name
  symbol .colon
  let text ← body
  endOfStatement
  return .note side participant text

/-- A space statement is complete with its number and needs no end. -/
def space : Reader Statement := do
  keyword "space"
  return .space (← gap)

def block (word : String) : Reader Statement :=
  throw (.unsupported 0 word)

/-- Tries two readers on the same tokens. Where neither matches, the refusal is the one that came
further. -/
def either {α : Type} (p q : Reader α) : Reader α := fun c =>
  match p c with
  | .error (.noMatch a) =>
    match q c with
    | .error (.noMatch b) => .error (.noMatch (max a b))
    | result => result
  | result => result

/-- The reader for a statement that starts with the given word. The words of declarations and
notes may also name the sender of a message. -/
def statement (lead : String) : Reader Statement :=
  if lead = "object" then either declaration message
  else if lead = sideWord .left then either (note .left) message
  else if lead = sideWord .right then either (note .right) message
  else if lead = "space" then space
  else if lead ∈ Name.blockWords then block lead
  else message

end Reader

end SequenceChart
