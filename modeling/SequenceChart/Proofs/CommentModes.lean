import Mathlib.Data.List.Induction
import SequenceChart.Compile
import SequenceChart.Proofs.Meaning

/-!
Comments behind finished statements. There the line terminator of a comment has nothing to end, so
a source means the same whether such terminators are kept or dropped with the comment.
-/

namespace SequenceChart

/-- The last token that is no blank ends a statement, or all tokens are blanks. -/
def BetweenStatements (ts : List Token) : Prop :=
  ∀ t ∈ (ts.filter (·.kind ≠ .space)).getLast?, t.kind = .semicolon ∨ t.kind = .newline

/-- No comment of the source stands inside a statement. -/
def CommentsBetweenStatements (source : String) : Prop :=
  ∀ before body terminator after,
    Lexeme.scan source.toList = before ++ .comment body terminator :: after →
      BetweenStatements (before.flatMap (Lexeme.tokens .swallow))

variable {xs : List Token}

theorem BetweenStatements.exists_end (between : BetweenStatements xs) :
    (∀ t ∈ xs, t.kind = .space) ∨ ∃ front u blanks, xs = front ++ u :: blanks ∧
      u.kind.endsStatement = true ∧ ∀ t ∈ blanks, t.kind = .space := by
  induction xs using List.reverseRecOn with
  | nil => exact .inl nofun
  | append_singleton xs t ih =>
      by_cases space : t.kind = .space
      · have earlier : BetweenStatements xs := by
          simpa [BetweenStatements, List.filter_append, space] using between
        cases ih earlier with
        | inl blank =>
            exact .inl (List.forall_mem_append.2 ⟨blank, by simpa using space⟩)
        | inr ended =>
            obtain ⟨front, u, blanks, rfl, ends, blank⟩ := ended
            refine .inr ⟨front, u, blanks ++ [t], by simp, ends, ?_⟩
            exact List.forall_mem_append.2 ⟨blank, by simpa using space⟩
      · have last : t.kind = .semicolon ∨ t.kind = .newline :=
          between t (by simp [List.filter_append, space])
        refine .inr ⟨xs, t, [], rfl, ?_, nofun⟩
        cases last with
        | inl semicolon => rw [semicolon]; rfl
        | inr newline => rw [newline]; rfl

namespace Program

open Lexeme

variable {ys : List Token} {source : String}

theorem meaning_of_blanks {blanks : List Token} (blank : ∀ t ∈ blanks, t.kind = .space) :
    meaning blanks = .ok [] := by
  have alone := meaning_blanks blank []
  rwa [List.append_nil, meaning_nil] at alone

/-- Between statements a list of tokens falls into two that are read one after the other. -/
theorem meaning_of_between (between : BetweenStatements xs) (ys : List Token) :
    meaning (xs ++ ys) = do
      let front ← meaning xs
      let back ← meaning ys
      return front ++ back := by
  cases between.exists_end with
  | inl blank =>
      rw [meaning_blanks blank, meaning_of_blanks blank]
      cases meaning ys <;> rfl
  | inr ended =>
      obtain ⟨front, u, blanks, rfl, ends, blank⟩ := ended
      rw [List.append_assoc, List.cons_append, meaning_append ends front (blanks ++ ys),
        meaning_append ends front blanks, meaning_blanks blank, meaning_of_blanks blank]
      cases meaning (front ++ [u]) with
      | error e => rfl
      | ok d => cases meaning ys <;> simp [bind, Except.bind, pure, Except.pure]

/-- A line terminator between two statements says nothing. -/
theorem meaning_newline (between : BetweenStatements xs) (terminator : String)
    (ys : List Token) : meaning (xs ++ ⟨.newline, terminator⟩ :: ys) = meaning (xs ++ ys) := by
  rw [meaning_of_between between, meaning_of_between between,
    meaning_loose (by simp)]

/-- One more lexeme whose tokens are those of the other mode. -/
theorem meaning_lexeme (l : Lexeme)
    (between : ∀ body terminator, l = .comment body terminator → BetweenStatements xs)
    (ys : List Token) :
    meaning (xs ++ (l.tokens .keep ++ ys)) = meaning (xs ++ (l.tokens .swallow ++ ys)) := by
  cases l with
  | token t => rfl
  | comment body terminator =>
      simp only [tokens]
      split
      case isTrue => rfl
      case isFalse => exact meaning_newline (between body terminator rfl) terminator ys

theorem meaning_lexemes (before after : List Lexeme)
    (between : ∀ front body terminator back, after = front ++ .comment body terminator :: back →
      BetweenStatements ((before ++ front).flatMap (tokens .swallow))) (ys : List Token) :
    meaning (before.flatMap (tokens .swallow) ++ (after.flatMap (tokens .keep) ++ ys)) =
      meaning (before.flatMap (tokens .swallow) ++ (after.flatMap (tokens .swallow) ++ ys)) := by
  induction after generalizing before with
  | nil => rfl
  | cons l after ih =>
      have here : ∀ body terminator, l = .comment body terminator →
          BetweenStatements (before.flatMap (tokens .swallow)) := by
        intro body terminator same
        have first := between [] body terminator after (by rw [same]; rfl)
        rwa [List.append_nil] at first
      have later := ih (before ++ [l]) fun front body terminator back same => by
        have next := between (l :: front) body terminator back (by rw [same]; rfl)
        rwa [List.append_assoc]
      simp only [List.flatMap_append, List.flatMap_cons, List.flatMap_nil, List.append_nil,
        List.append_assoc] at later ⊢
      rw [meaning_lexeme l here, later]

theorem meaning_scan (between : CommentsBetweenStatements source) :
    meaning (Token.scan .swallow source) = meaning (Token.scan .keep source) :=
  (meaning_lexemes [] (scan source.toList) between [Token.endOfInput]).symm

end Program

theorem compile_eq_ok {mode : CommentNewline} {source : String} {c : Compiled} :
    compile mode source = .ok c ↔ Program.ofSource mode source = .ok c.program ∧
      c.layout = Layout.ofDiagram c.program.diagram ∧
      (Layout.ofDiagram c.program.diagram).render c.program.diagram = .ok c.canvas := by
  obtain ⟨program, layout, canvas⟩ := c
  rw [compile]
  constructor
  · intro compiled
    cases read : Program.ofSource mode source with
    | error e =>
        rw [read] at compiled
        contradiction
    | ok p =>
        rw [read] at compiled
        cases drawn : (Layout.ofDiagram p.diagram).render p.diagram with
        | error e =>
            simp only [Except.mapError, bind, Except.bind, drawn] at compiled
            contradiction
        | ok canvas =>
            simp only [Except.mapError, bind, Except.bind, drawn] at compiled
            cases compiled
            exact ⟨rfl, rfl, drawn⟩
  · dsimp only
    rintro ⟨read, rfl, drawn⟩
    simp only [Except.mapError, bind, Except.bind, read, drawn]
    rfl

theorem canvas_of_compile {mode : CommentNewline} {source : String} {c : Compiled}
    (compiled : compile mode source = .ok c) : ∃ p, Program.ofSource mode source = .ok p ∧
      (Layout.ofDiagram p.diagram).render p.diagram = .ok c.canvas := by
  obtain ⟨read, _, drawn⟩ := compile_eq_ok.1 compiled
  exact ⟨c.program, read, drawn⟩

/-- Where every comment stands between statements, a source has the same diagram whether the line
terminators behind comments are kept or dropped, and the same drawing. If there is an error, only
its position can differ. -/
theorem Program.comment_modes_agree (source : String)
    (between : CommentsBetweenStatements source) :
    ((∃ p q, ofSource .swallow source = .ok p ∧ ofSource .keep source = .ok q ∧
        p.diagram = q.diagram) ∨
      ∃ e e', ofSource .swallow source = .error e ∧ ofSource .keep source = .error e' ∧
        e' = e.movedTo e'.tokenIndex) ∧
    ∀ c c', compile .swallow source = .ok c → compile .keep source = .ok c' →
      c.canvas = c'.canvas := by
  have agree := ofTokens_agree (meaning_scan between)
  refine ⟨agree, fun c c' compiled compiled' => ?_⟩
  obtain ⟨p, read, drawn⟩ := canvas_of_compile compiled
  obtain ⟨p', read', drawn'⟩ := canvas_of_compile compiled'
  cases agree with
  | inl ok =>
      obtain ⟨q, q', same, same', diagram⟩ := ok
      cases read.symm.trans same
      cases read'.symm.trans same'
      rw [diagram, drawn'] at drawn
      exact (Except.ok.inj drawn).symm
  | inr refused =>
      obtain ⟨e, _, refused, _⟩ := refused
      cases read.symm.trans refused

/-- A comment behind a semicolon, whose terminator is a token in one mode only. -/
theorem Program.comment_modes_agree_behind_semicolon :
    CommentsBetweenStatements "A->B; // x\nB->A" ∧ ∃ c c',
      compile .swallow "A->B; // x\nB->A" = .ok c ∧ compile .keep "A->B; // x\nB->A" = .ok c' ∧
        c.canvas = c'.canvas := by
  have lexemes : Lexeme.scan "A->B; // x\nB->A".toList = [.token ⟨.word, "A"⟩,
      .token ⟨.arrow, "->"⟩, .token ⟨.word, "B"⟩, .token ⟨.semicolon, ";"⟩, .token ⟨.space, " "⟩,
      .comment "// x" "\n", .token ⟨.word, "B"⟩, .token ⟨.arrow, "->"⟩, .token ⟨.word, "A"⟩] := by
    decide +kernel
  have between : CommentsBetweenStatements "A->B; // x\nB->A" := by
    intro before body terminator after cut
    rw [lexemes] at cut
    simp only [List.cons_eq_append_iff, List.cons.injEq, List.nil_eq, List.append_eq_nil_iff,
      Lexeme.comment.injEq, reduceCtorEq, ↓existsAndEq, exists_const, true_and, false_and,
      and_false, or_self, false_or, or_false] at cut
    rw [cut.1]
    unfold BetweenStatements
    decide
  have drawn (mode : CommentNewline) : ∃ c, compile mode "A->B; // x\nB->A" = .ok c := by
    have ok : (compile mode "A->B; // x\nB->A").isOk = true := by
      cases mode <;> decide +kernel
    cases compiled : compile mode "A->B; // x\nB->A" with
    | ok c => exact ⟨c, rfl⟩
    | error e =>
        rw [compiled] at ok
        contradiction
  obtain ⟨c, compiled⟩ := drawn .swallow
  obtain ⟨c', compiled'⟩ := drawn .keep
  obtain ⟨_, same⟩ := comment_modes_agree "A->B; // x\nB->A" between
  exact ⟨between, c, c', compiled, compiled', same c c' compiled compiled'⟩

end SequenceChart
