import Mathlib.Data.List.Forall2
import SequenceChart.Proofs.Meaning
import SequenceChart.Proofs.Segmentation

/-!
The lines of a source text. Where line terminators behind comments are kept, no token and no
statement goes on from one line to the next, and a comment says nothing: the lines without their
comments can be read one by one.
-/

namespace SequenceChart

/-- The lines of a text without their terminators. The last line has none. -/
def sourceLines : List Char → List (List Char)
  | [] => [[]]
  | '\r' :: '\n' :: cs => [] :: sourceLines cs
  | '\r' :: cs => [] :: sourceLines cs
  | '\n' :: cs => [] :: sourceLines cs
  | c :: cs => (sourceLines cs).modifyHead (c :: ·)

/-- The part of a line before its first two slashes. -/
def beforeComment : List Char → List Char
  | [] => []
  | '/' :: '/' :: _ => []
  | c :: cs => c :: beforeComment cs

open Lexeme

variable {c : Char} {line cs rest : List Char} {terminator : String}

theorem sourceLines_cons (no_break : isLineBreak c = false) (cs : List Char) :
    sourceLines (c :: cs) = (sourceLines cs).modifyHead (c :: ·) := by
  rw [sourceLines]
  all_goals
    intros
    subst c
    contradiction

theorem sourceLines_last (inside : ∀ c ∈ line, isLineBreak c = false) :
    sourceLines line = [line] := by
  induction line with
  | nil => rfl
  | cons c line ih =>
      obtain ⟨no_break, inside⟩ := List.forall_mem_cons.1 inside
      rw [sourceLines_cons no_break, ih inside]
      rfl

theorem sourceLines_append (inside : ∀ c ∈ line, isLineBreak c = false)
    (whole : IsTerminator rest.head? terminator) :
    sourceLines (line ++ (terminator.toList ++ rest)) = line :: sourceLines rest := by
  induction line with
  | nil =>
      cases whole with
      | crlf | lf => rfl
      | cr whole =>
          change sourceLines ('\r' :: rest) = _
          rw [sourceLines]
          intro cs same
          rw [same] at whole
          exact whole rfl
  | cons c line ih =>
      obtain ⟨no_break, inside⟩ := List.forall_mem_cons.1 inside
      rw [List.cons_append, sourceLines_cons no_break, ih inside]
      rfl

/-- Every text is a line without a terminator, or a line and its terminator in front of a text. -/
theorem line_induction {motive : List Char → Prop}
    (last : ∀ line, (∀ c ∈ line, isLineBreak c = false) → motive line)
    (step : ∀ line terminator rest, (∀ c ∈ line, isLineBreak c = false) →
      IsTerminator rest.head? terminator → motive rest →
      motive (line ++ (terminator.toList ++ rest)))
    (cs : List Char) : motive cs := by
  induction count : cs.length using Nat.strong_induction_on generalizing cs with
  | _ _ ih =>
      subst count
      obtain ⟨line, rest, inside, stop, rfl⟩ := exists_line cs
      cases rest with
      | nil =>
          rw [List.append_nil]
          exact last line inside
      | cons c rest =>
          have whole := isTerminator_lineTerminator stop (List.cons_ne_nil c rest)
          have cut := toList_lineTerminator (c :: rest)
          generalize lineTerminator (c :: rest) = front at whole cut
          obtain ⟨c', cs', chars, _⟩ := isLineBreak_of_isTerminator whole
          rw [← cut]
          refine step line front.1 front.2 inside whole (ih _ ?_ front.2 rfl)
          rw [← cut, chars]
          simp only [List.length_append, List.length_cons]
          omega

/-! A line and the part of it before the comment. -/

/-- Behind that part a line ends, or its comment starts with the first two slashes. -/
theorem exists_comment (line : List Char) : ∃ comment, line = beforeComment line ++ comment ∧
    (comment = [] ∨ ∃ body, comment = '/' :: '/' :: body) ∧
    ¬ ['/', '/'] <:+: beforeComment line ++ comment.take 1 := by
  fun_induction beforeComment line with
  | case1 => exact ⟨[], rfl, .inl rfl, by simp⟩
  | case2 body =>
      exact ⟨'/' :: '/' :: body, rfl, .inr ⟨body, rfl⟩, show ¬ ['/', '/'] <:+: ['/'] by decide⟩
  | case3 c cs other ih =>
      obtain ⟨comment, cut, shape, first⟩ := ih
      refine ⟨comment, congrArg (c :: ·) cut, shape, fun slashes => ?_⟩
      cases List.infix_cons_iff.1 slashes with
      | inr later => exact first later
      | inl here =>
          obtain ⟨rfl, second⟩ := List.cons_prefix_cons.1 here
          have within : beforeComment cs ++ comment.take 1 <+: cs := by
            nth_rewrite 2 [cut]
            exact List.prefix_append_right_inj _ |>.2 (List.take_prefix 1 comment)
          obtain ⟨others, same⟩ := second.trans within
          exact other others rfl same.symm

/-- A token at the end of a text also fits what comes behind the part before a comment. -/
theorem Token.Fits.stop {t : Token} (fits : t.Fits none)
    (inside : ∀ c ∈ t.text.toList, isLineBreak c = false) (stop : c ∈ ['\n', '\r', ';', '/'])
    (no_comment : c = '/' → t.text ≠ "/") : t.Fits (some c) := by
  cases fits with
  | newline whole =>
      obtain ⟨c', cs, chars, breaks⟩ := isLineBreak_of_isTerminator whole
      have no_break := inside c' (by simp [chars])
      rw [breaks] at no_break
      contradiction
  | blank => exact .blank
  | tab => exact .tab
  | colon => exact .colon
  | semicolon => exact .semicolon
  | arrow => exact .arrow
  | word ne_nil isWord _ =>
      refine .word ne_nil isWord fun c' same => ?_
      cases same
      simp only [List.mem_cons, List.not_mem_nil, or_false] at stop
      obtain rfl | rfl | rfl | rfl := stop <;> rfl
  | stray alone =>
      refine .stray ⟨alone.not_word, alone.not_mark, fun _ same => ?_, fun slash same => ?_⟩
      · cases same
        contradiction
      · cases same
        exact no_comment rfl (by rw [slash])

namespace Lexeme

variable {l : Lexeme} {ls ls' : List Lexeme}

/-- Segmentations of two texts join to one if the last lexeme of the first fits there. -/
theorem Segmentation.append (front : Segmentation cs ls) (back : Segmentation rest ls')
    (seam : ∀ l ∈ ls.getLast?, l.Fits none → l.Fits rest.head?) :
    Segmentation (cs ++ rest) (ls ++ ls') := by
  induction front with
  | nil => exact back
  | cons fits others ih =>
      rw [List.append_assoc, List.cons_append]
      cases others with
      | nil => exact .cons (seam _ rfl fits) back
      | cons fits' others' =>
          refine .cons ?_ (ih fun l last => seam l (by simpa using last))
          obtain ⟨c, cs, same, _⟩ := fits'.first_eq
          rw [same] at fits ⊢
          exact fits

theorem Segmentation.exists_tokens (segments : Segmentation cs ls)
    (no_comment : ¬ ['/', '/'] <:+: cs) : ∃ ts : List Token, ls = ts.map .token := by
  induction segments with
  | nil => exact ⟨[], rfl⟩
  | cons fits others ih =>
      obtain ⟨ts, rfl⟩ := ih fun slashes =>
        no_comment (slashes.trans (List.suffix_append _ _).isInfix)
      cases fits with
      | @token t _ => exact ⟨t :: ts, rfl⟩
      | comment _ _ | lastComment _ _ =>
          simp only [text, String.toList_append, String.toList_ofList] at no_comment
          exact (no_comment ⟨[], _, rfl⟩).elim

end Lexeme

/-- The tokens of a text without the one that stands for its end. -/
def Token.ofChars (mode : CommentNewline) (cs : List Char) : List Token :=
  (Lexeme.scan cs).flatMap (Lexeme.tokens mode)

variable {mode : CommentNewline} {body : List Char} {ts : List Token} {t : Token}

theorem ofChars_nil : Token.ofChars mode [] = [] :=
  congrArg (List.flatMap (Lexeme.tokens mode)) Segmentation.nil.scan_eq

theorem ofChars_cons (fits : t.Fits rest.head?) :
    Token.ofChars mode (t.text.toList ++ rest) = t :: Token.ofChars mode rest := by
  have segments := Segmentation.cons (.token fits) (segmentation_scan rest)
  exact congrArg (List.flatMap (Lexeme.tokens mode)) segments.scan_eq

theorem ofChars_terminator (whole : IsTerminator rest.head? terminator) :
    Token.ofChars mode (terminator.toList ++ rest) =
      ⟨.newline, terminator⟩ :: Token.ofChars mode rest :=
  ofChars_cons (.newline whole)

theorem ofChars_comment (inside : ∀ c ∈ body, isLineBreak c = false)
    (whole : IsTerminator rest.head? terminator) :
    Token.ofChars .keep ('/' :: '/' :: body ++ (terminator.toList ++ rest)) =
      ⟨.newline, terminator⟩ :: Token.ofChars .keep rest := by
  have segments := Segmentation.cons (.comment inside whole) (segmentation_scan rest)
  simp only [text, String.toList_append, String.toList_ofList, List.append_assoc] at segments
  have visible : terminator ≠ "" := by
    rintro rfl
    obtain ⟨c, cs, impossible, _⟩ := isLineBreak_of_isTerminator whole
    contradiction
  rw [Token.ofChars, segments.scan_eq, List.flatMap_cons, Lexeme.tokens, if_neg visible]
  rfl

theorem ofChars_lastComment (inside : ∀ c ∈ body, isLineBreak c = false) :
    Token.ofChars mode ('/' :: '/' :: body) = [] := by
  have fits : (Lexeme.comment (String.ofList ('/' :: '/' :: body)) "").Fits [].head? :=
    .lastComment inside rfl
  have segments := Segmentation.cons fits .nil
  simp only [text, String.toList_append, String.toList_ofList, String.toList_empty,
    List.append_nil] at segments
  rw [Token.ofChars, segments.scan_eq]
  cases mode <;> rfl

theorem tokens_of_token (ts : List Token) :
    (ts.map Lexeme.token).flatMap (Lexeme.tokens mode) = ts := by
  induction ts with
  | nil => rfl
  | cons t ts ih => rw [List.map_cons, List.flatMap_cons, ih]; rfl

/-- The tokens before a comment, a semicolon or a line break do not depend on what comes behind. -/
theorem ofChars_append (segments : Segmentation cs (ts.map .token))
    (inside : ∀ c ∈ cs, isLineBreak c = false)
    (stop : ∀ c ∈ rest.head?, c ∈ ['\n', '\r', ';', '/'])
    (first : rest.head? = some '/' → ¬ ['/', '/'] <:+: cs ++ ['/']) :
    Token.ofChars mode (cs ++ rest) = ts ++ Token.ofChars mode rest := by
  have seam : ∀ l ∈ (ts.map Lexeme.token).getLast?, l.Fits none → l.Fits rest.head? := by
    intro l last fits
    rw [List.getLast?_map] at last
    obtain ⟨t, last_token, rfl⟩ := Option.map_eq_some_iff.1 last
    obtain ⟨others, rfl⟩ := List.getLast?_eq_some_iff.1 last_token
    have chars := segments.flatMap_text
    simp only [List.map_append, List.flatMap_append, List.map_cons, List.map_nil,
      List.flatMap_cons, List.flatMap_nil, List.append_nil, text] at chars
    cases rest with
    | nil => exact fits
    | cons c rest =>
        cases fits with
        | token fits =>
            refine .token (fits.stop ?_ (stop c rfl) ?_)
            · intro c' mem
              exact inside c' (by simp [← chars, mem])
            · intro comment slash
              cases comment
              rw [← chars, slash, List.append_assoc] at first
              exact first rfl (List.suffix_append _ _).isInfix
  have joined := segments.append (segmentation_scan rest) seam
  rw [Token.ofChars, joined.scan_eq, List.flatMap_append, tokens_of_token]
  rfl

theorem head_of_isTerminator (whole : IsTerminator rest.head? terminator) (cs : List Char) :
    (terminator.toList ++ cs).head? = some '\n' ∨ (terminator.toList ++ cs).head? = some '\r' := by
  cases whole with
  | lf => exact .inl rfl
  | crlf | cr _ => exact .inr rfl

/-- The tokens of a line are those before its comment, and its terminator becomes a token. -/
theorem exists_tokens_of_line (inside : ∀ c ∈ line, isLineBreak c = false) : ∃ ts : List Token,
    Token.ofChars .swallow (beforeComment line) = ts ∧ Token.ofChars .keep line = ts ∧
    ∀ terminator rest, IsTerminator rest.head? terminator →
      Token.ofChars .keep (line ++ (terminator.toList ++ rest)) =
        ts ++ ⟨.newline, terminator⟩ :: Token.ofChars .keep rest := by
  obtain ⟨comment, cut, shape, first⟩ := exists_comment line
  have segments := segmentation_scan (beforeComment line)
  generalize beforeComment line = code at cut first segments ⊢
  subst cut
  obtain ⟨ts, same⟩ := segments.exists_tokens fun slashes =>
    first (slashes.trans (List.prefix_append _ _).isInfix)
  rw [same] at segments
  have alone (mode : CommentNewline) : Token.ofChars mode code = ts := by
    rw [Token.ofChars, same, tokens_of_token]
  have inside_code : ∀ c ∈ code, isLineBreak c = false := fun c mem => inside c (by simp [mem])
  cases shape with
  | inl none =>
      rw [none, List.append_nil]
      refine ⟨ts, alone .swallow, alone .keep, fun terminator rest whole => ?_⟩
      rw [← ofChars_terminator whole]
      cases head_of_isTerminator whole rest with
      | inl lf => exact ofChars_append segments inside_code (by simp [lf]) (by simp [lf])
      | inr cr => exact ofChars_append segments inside_code (by simp [cr]) (by simp [cr])
  | inr comment =>
      obtain ⟨body, rfl⟩ := comment
      have inside_body : ∀ c ∈ body, isLineBreak c = false :=
        fun c mem => inside c (by simp [mem])
      refine ⟨ts, alone .swallow, ?_, fun terminator rest whole => ?_⟩
      · rw [ofChars_append segments inside_code (by simp) (fun _ => first),
          ofChars_lastComment inside_body, List.append_nil]
      · rw [List.append_assoc, ofChars_append segments inside_code (by simp) (fun _ => first),
          ofChars_comment inside_body whole]

/-! What the lines of a text mean. -/

namespace Program

/-- The tokens of a line without its comment. -/
def codeTokens (line : List Char) : List Token :=
  Token.ofChars .swallow (beforeComment line) ++ [Token.endOfInput]

theorem meaning_line (inside : ∀ c ∈ line, isLineBreak c = false) :
    meaning (Token.ofChars .keep line ++ [Token.endOfInput]) = meaning (codeTokens line) := by
  obtain ⟨ts, code, whole, _⟩ := exists_tokens_of_line inside
  rw [codeTokens, code, whole]

theorem meaning_line_append {d : Diagram} (inside : ∀ c ∈ line, isLineBreak c = false)
    (whole : IsTerminator rest.head? terminator) :
    meaning (Token.ofChars .keep (line ++ (terminator.toList ++ rest)) ++ [Token.endOfInput]) =
        .ok d ↔ ∃ front back, meaning (codeTokens line) = .ok front ∧
      meaning (Token.ofChars .keep rest ++ [Token.endOfInput]) = .ok back ∧ front ++ back = d := by
  obtain ⟨ts, code, _, more⟩ := exists_tokens_of_line inside
  have ends : (⟨.newline, terminator⟩ : Token).kind.endsStatement = true := rfl
  have at_end : Token.endOfInput.kind.endsStatement = true := rfl
  rw [codeTokens, code, more terminator rest whole, List.append_assoc, List.cons_append,
    meaning_append_eq_ok ends]
  simp only [meaning_end at_end]

theorem meaning_lines (cs : List Char) (d : Diagram) :
    meaning (Token.ofChars .keep cs ++ [Token.endOfInput]) = .ok d ↔ ∃ ps,
      List.Forall₂ (fun line p => ofTokens (codeTokens line) = .ok p) (sourceLines cs) ps ∧
        (ps.map diagram).flatten = d := by
  induction cs using line_induction generalizing d with
  | last line inside =>
      rw [meaning_line inside, sourceLines_last inside, meaning_eq_ok]
      constructor
      · intro read
        obtain ⟨p, read, rfl⟩ := read
        exact ⟨[p], .cons read .nil, List.append_nil _⟩
      · intro read
        obtain ⟨ps, reads, rfl⟩ := read
        cases reads with
        | cons read none =>
            cases none
            exact ⟨_, read, (List.append_nil _).symm⟩
  | step line terminator rest inside whole ih =>
      rw [meaning_line_append inside whole, sourceLines_append inside whole]
      constructor
      · intro read
        obtain ⟨front, back, first, others, rfl⟩ := read
        obtain ⟨p, read, rfl⟩ := meaning_eq_ok.1 first
        obtain ⟨ps, reads, rfl⟩ := (ih back).1 others
        exact ⟨p :: ps, .cons read reads, rfl⟩
      · intro read
        obtain ⟨ps, reads, rfl⟩ := read
        cases reads with
        | cons read reads =>
            exact ⟨_, _, meaning_eq_ok.2 ⟨_, read, rfl⟩, (ih _).2 ⟨_, reads, rfl⟩, rfl⟩

end Program

/-- The lines of a source without their comments. -/
def codeLines (source : String) : List String :=
  (sourceLines source.toList).map fun line => String.ofList (beforeComment line)

namespace Program

theorem ofSource_keep_eq_ok (source : String) (d : Diagram) :
    (∃ p, ofSource .keep source = .ok p ∧ p.diagram = d) ↔ ∃ ps,
      List.Forall₂ (fun line p => ofSource .swallow line = .ok p) (codeLines source) ps ∧
        (ps.map diagram).flatten = d := by
  have lines := meaning_lines source.toList d
  rw [meaning_eq_ok] at lines
  rw [codeLines]
  simp only [List.forall₂_map_left_iff, ofSource, Token.scan, String.toList_ofList]
  exact lines

theorem exists_forall₂_iff {α β : Type} {R : α → β → Prop} {xs : List α} :
    (∃ ys, List.Forall₂ R xs ys) ↔ ∀ x ∈ xs, ∃ y, R x y := by
  induction xs with
  | nil => simp
  | cons x xs ih =>
      rw [List.forall_mem_cons, ← ih]
      constructor
      · intro related
        obtain ⟨ys, related⟩ := related
        cases related with
        | cons first others => exact ⟨⟨_, first⟩, ⟨_, others⟩⟩
      · intro related
        obtain ⟨⟨y, first⟩, ⟨ys, others⟩⟩ := related
        exact ⟨y :: ys, .cons first others⟩

/-- Where the line terminators behind comments are kept, a source is read line by line: it can be
read if each of its lines can, by itself and without its comment, and its statements are those of
the lines in order. -/
theorem ofSource_keep_lines (source : String) :
    ((∃ p, ofSource .keep source = .ok p) ↔
      ∀ line ∈ codeLines source, ∃ p, ofSource .swallow line = .ok p) ∧
    ∀ p, ofSource .keep source = .ok p → ∃ ps,
      List.Forall₂ (fun line p => ofSource .swallow line = .ok p) (codeLines source) ps ∧
        p.diagram = (ps.map diagram).flatten := by
  have lines := ofSource_keep_eq_ok source
  rw [← exists_forall₂_iff]
  refine ⟨⟨?_, ?_⟩, ?_⟩
  · intro read
    obtain ⟨p, read⟩ := read
    obtain ⟨ps, reads, _⟩ := (lines _).1 ⟨p, read, rfl⟩
    exact ⟨ps, reads⟩
  · intro reads
    obtain ⟨ps, reads⟩ := reads
    obtain ⟨p, read, _⟩ := (lines _).2 ⟨ps, reads, rfl⟩
    exact ⟨p, read⟩
  · intro p read
    obtain ⟨ps, reads, same⟩ := (lines _).1 ⟨p, read, rfl⟩
    exact ⟨ps, reads, same.symm⟩

end Program

end SequenceChart
