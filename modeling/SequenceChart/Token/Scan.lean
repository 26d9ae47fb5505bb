import SequenceChart.Text.Word
import SequenceChart.Token.Basic

/-!
Cutting a text into tokens. The text is first cut into lexemes, which lose nothing: a lexeme is a
token or a comment, and their texts in order are the text again. A comment runs from two slashes
to the end of its line and takes the line terminator with it. Only the second step, from lexemes
to tokens, depends on what the terminator of a comment is to mean.
-/

namespace SequenceChart

/-- What becomes of the line terminator after a comment. -/
inductive CommentNewline where
  /-- It is dropped with the comment, so a statement goes on in the next line. -/
  | swallow
  /-- It stays, and ends a statement like any other line terminator. -/
  | keep
  deriving DecidableEq, Repr

inductive Lexeme where
  | token (t : Token)
  /-- A comment from its slashes to the end of the line, and the terminator of the line. The
  terminator is empty where the text ends with the comment. -/
  | comment (body terminator : String)
  deriving DecidableEq, Repr

namespace Lexeme

def isLineBreak (c : Char) : Bool :=
  c == '\n' || c == '\r'

/-- The line terminator at the front of a text and what follows it. A carriage return and the line
feed after it are one terminator. -/
def lineTerminator : List Char → String × List Char
  | '\r' :: '\n' :: cs => ("\r\n", cs)
  | '\r' :: cs => ("\r", cs)
  | '\n' :: cs => ("\n", cs)
  | cs => ("", cs)

/-- The lexeme at the front of the text with first character `c`, and what follows it. -/
def first (c : Char) (cs : List Char) : Lexeme × List Char :=
  match c, cs with
  | '/', '/' :: cs =>
    let (terminator, rest) := lineTerminator (cs.dropWhile (!isLineBreak ·))
    (.comment (String.ofList ('/' :: '/' :: cs.takeWhile (!isLineBreak ·))) terminator, rest)
  | '\r', '\n' :: cs => (.token ⟨.newline, "\r\n"⟩, cs)
  | '\r', cs => (.token ⟨.newline, "\r"⟩, cs)
  | '\n', cs => (.token ⟨.newline, "\n"⟩, cs)
  | ' ', cs => (.token ⟨.space, " "⟩, cs)
  | '\t', cs => (.token ⟨.space, "\t"⟩, cs)
  | ':', cs => (.token ⟨.colon, ":"⟩, cs)
  | ';', cs => (.token ⟨.semicolon, ";"⟩, cs)
  | '-', '>' :: cs => (.token ⟨.arrow, "->"⟩, cs)
  | c, cs =>
    if Text.isWord c then
      (.token ⟨.word, String.ofList (c :: cs.takeWhile Text.isWord)⟩, cs.dropWhile Text.isWord)
    else
      (.token ⟨.word, String.ofList [c]⟩, cs)

theorem length_dropWhile_le (p : Char → Bool) (cs : List Char) :
    (cs.dropWhile p).length ≤ cs.length :=
  (List.dropWhile_suffix p).length_le

theorem length_lineTerminator_le (cs : List Char) :
    (lineTerminator cs).2.length ≤ cs.length := by
  unfold lineTerminator
  split <;> simp only [List.length_cons] <;> omega

/-- A lexeme takes at least the character it starts with. -/
theorem length_first_le (c : Char) (cs : List Char) :
    (first c cs).2.length ≤ cs.length := by
  unfold first
  split
  case h_1 cs =>
    have taken := length_lineTerminator_le (cs.dropWhile (!isLineBreak ·))
    have comment := length_dropWhile_le (!isLineBreak ·) cs
    simp only [List.length_cons]
    omega
  case h_10 =>
    split
    · exact length_dropWhile_le _ _
    · exact Nat.le_refl _
  all_goals simp

/-- All lexemes of a text, in order. -/
def scan : List Char → List Lexeme
  | [] => []
  | c :: cs => (first c cs).1 :: scan (first c cs).2
termination_by cs => cs.length
decreasing_by exact Nat.lt_succ_of_le (length_first_le c cs)

/-- The part of the source that the lexeme stands for. -/
def text : Lexeme → String
  | .token t => t.text
  | .comment body terminator => body ++ terminator

theorem toList_lineTerminator (cs : List Char) :
    (lineTerminator cs).1.toList ++ (lineTerminator cs).2 = cs := by
  unfold lineTerminator
  split <;> simp

theorem text_first (c : Char) (cs : List Char) :
    (first c cs).1.text.toList ++ (first c cs).2 = c :: cs := by
  unfold first
  split
  case h_1 =>
    simp only [text, String.toList_append, String.toList_ofList, List.append_assoc,
      toList_lineTerminator, List.cons_append, List.takeWhile_append_dropWhile]
  case h_10 =>
    split
    · simp only [text, String.toList_ofList, List.cons_append, List.takeWhile_append_dropWhile]
    · simp only [text, String.toList_ofList, List.singleton_append]
  all_goals simp [text]

/-- The tokens that a lexeme leaves for the reader. -/
def tokens (mode : CommentNewline) : Lexeme → List Token
  | .token t => [t]
  | .comment _ terminator =>
    match mode with
    | .swallow => []
    | .keep => if terminator = "" then [] else [⟨.newline, terminator⟩]

end Lexeme

/-- The tokens of a source text. Every text has tokens, and the last one is the end of input. -/
def Token.scan (mode : CommentNewline) (source : String) : List Token :=
  (Lexeme.scan source.toList).flatMap (Lexeme.tokens mode) ++ [Token.endOfInput]

end SequenceChart
