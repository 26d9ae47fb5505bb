import SequenceChart.Proofs.Derivation

/-!
Token lists put one behind the other. Where a list stands shows in the positions of its statements
and errors and in nothing else, and a list that ends with the end of a statement is read without a
look at what follows. So the whole is read as its two parts are, with the second one moved behind
the first.
-/

namespace SequenceChart

/-- The entry of a statement that has so many more tokens and statements before it. -/
def Entry.movedBy (tokens statements : Nat) (e : Entry) : Entry where
  id := ⟨e.id.index + statements⟩
  span := { e.span with start := e.span.start + tokens }
  statement := e.statement

/-- The error of a token that has so many more tokens before it. -/
def ParseError.movedBy (tokens : Nat) : ParseError → ParseError
  | .unexpected index found => .unexpected (index + tokens) found
  | .unsupported index keyword => .unsupported (index + tokens) keyword
  | .invalidGap index text => .invalidGap (index + tokens) text

theorem Refusal.toError_add (r : Refusal) (start n : Nat) (ts : List Token) :
    r.toError (start + n) ts = (r.toError start ts).movedBy n := by
  cases r <;> simp only [toError, ParseError.movedBy, Nat.add_right_comm]

namespace Grammar.Derivation

/-- Whether the last statement has its end. -/
def Closed : Derivation → Prop
  | done => True
  | loose _ rest | phrase _ rest => rest.Closed
  | unended _ => False

theorem closed_of_getLast? {d : Derivation}
    (ends : ∀ t ∈ d.tokens.getLast?, t.kind.endsStatement = true) : d.Closed := by
  induction d with
  | done => trivial
  | loose token rest ih =>
      refine ih fun t last => ends t ?_
      rw [tokens, ← List.singleton_append, List.getLast?_append, last]
      rfl
  | phrase p rest ih =>
      refine ih fun t last => ends t ?_
      rw [tokens, List.getLast?_append, last]
      rfl
  | unended c =>
      have nonempty : c.tokens ≠ [] := List.cons_ne_nil _ _
      have inside := c.runs_on _ (List.getLast_mem nonempty)
      rw [ends _ (List.getLast?_eq_some_getLast nonempty)] at inside
      contradiction

end Grammar.Derivation

namespace Program

open Grammar

/-- Where a list stands shows in the positions only. -/
theorem entriesFrom_add (start index m n : Nat) (ts : List Token) :
    entriesFrom (start + m) (index + n) ts =
      ((entriesFrom start index ts).mapError (·.movedBy m)).map (List.map (Entry.movedBy m n)) := by
  induction ts using phrase_induction generalizing start index with
  | done => rw [entriesFrom, entriesFrom]; rfl
  | loose t ts loose ih =>
      rw [entriesFrom_loose loose, entriesFrom_loose loose, Nat.add_right_comm, ih]
  | phrase p ts ih =>
      rw [entriesFrom_phrase, entriesFrom_phrase, Nat.add_right_comm start,
        Nat.add_right_comm index, ih]
      cases entriesFrom (start + p.tokens.length) (index + 1) ts <;> rfl
  | unended c =>
      rw [entriesFrom_unended, entriesFrom_unended]
      rfl
  | refused t ts r word refused =>
      rw [entriesFrom_of_error word refused, entriesFrom_of_error word refused, r.toError_add]
      rfl

/-- A closed list is read without a look at what follows. -/
theorem entriesFrom_append {d : Derivation} (closed : d.Closed) (start index : Nat)
    (ts : List Token) :
    entriesFrom start index (d.tokens ++ ts) =
      (entriesFrom (start + d.tokens.length) (index + (d.entries start index).length) ts).map
        (d.entries start index ++ ·) := by
  induction d generalizing start index with
  | done =>
      simp only [Derivation.tokens, Derivation.entries, List.nil_append, List.length_nil,
        Nat.add_zero]
      cases entriesFrom start index ts <;> rfl
  | loose token rest ih =>
      rw [Derivation.tokens, List.cons_append, entriesFrom_loose token.2, ih closed,
        Derivation.entries, List.length_cons, Nat.add_comm rest.tokens.length, ← Nat.add_assoc]
  | phrase p rest ih =>
      rw [Derivation.tokens, List.append_assoc, entriesFrom_phrase, ih closed, Derivation.entries,
        List.length_append, List.length_cons, ← Nat.add_assoc,
        Nat.add_comm (List.length (rest.entries _ _)), ← Nat.add_assoc]
      cases entriesFrom _ _ ts <;> rfl
  | unended c => exact closed.elim

/-- Whether a token list can be read and has the end of its last statement, if it has any tokens at
all. -/
def Complete (ts : List Token) : Prop :=
  ts = [] ∨ (∃ p, ofTokens ts = .ok p) ∧ ∃ t, ts.getLast? = some t ∧ t.kind.endsStatement = true

theorem Complete.exists_derivation {ts : List Token} (complete : Complete ts) :
    ∃ d : Derivation, d.Closed ∧ d.tokens = ts := by
  rcases complete with rfl | ⟨⟨p, read⟩, last, is_last, ends⟩
  · exact ⟨.done, trivial, rfl⟩
  · obtain ⟨es, read, _⟩ := ofTokens_eq_ok.1 read
    obtain ⟨d, rfl⟩ := Program.exists_derivation read
    refine ⟨d, Derivation.closed_of_getLast? fun t here => ?_, rfl⟩
    cases is_last.symm.trans here
    exact ends

/-- Reading a list behind a complete one. Its statements come behind those of the complete one, and
its error, if it has one, is the error of the whole. -/
theorem ofTokens_append_of_complete {front : List Token} (complete : Complete front)
    (back : List Token) :
    ∃ p, ofTokens front = .ok p ∧
      (∀ q, ofTokens back = .ok q → ofTokens (front ++ back) =
        .ok ⟨⟨0, front.length + back.length⟩,
          p.entries ++ q.entries.map (Entry.movedBy front.length p.entries.length)⟩) ∧
      ∀ e, ofTokens back = .error e →
        ofTokens (front ++ back) = .error (e.movedBy front.length) := by
  obtain ⟨d, closed, rfl⟩ := complete.exists_derivation
  have whole := entriesFrom_append closed 0 0 back
  rw [entriesFrom_add] at whole
  refine ⟨d.program, ofTokens_eq_ok.2 ⟨_, entriesFrom_tokens d, rfl⟩, fun q read => ?_,
    fun e failed => ?_⟩
  · obtain ⟨es, behind, rfl⟩ := ofTokens_eq_ok.1 read
    rw [behind] at whole
    exact ofTokens_eq_ok.2 ⟨_, whole, by rw [List.length_append]; rfl⟩
  · rw [ofTokens_eq_error.1 failed] at whole
    exact ofTokens_eq_error.2 whole

/-- A message in front of a space statement without a number, and in front of itself. -/
theorem ofTokens_append_of_complete_message :
    let front : List Token := [⟨.word, "a"⟩, ⟨.arrow, "->"⟩, ⟨.word, "b"⟩, ⟨.semicolon, ";"⟩]
    let back : List Token := [⟨.word, "space"⟩, ⟨.space, " "⟩, ⟨.word, "x"⟩]
    Complete front ∧ ofTokens (front ++ back) = .error (.unexpected 6 "x") ∧
      ofTokens (front ++ front) = .ok ⟨⟨0, 8⟩, [⟨⟨0⟩, ⟨0, 4⟩, .message "a" "b" ""⟩,
        ⟨⟨1⟩, ⟨4, 4⟩, .message "a" "b" ""⟩]⟩ := by
  intro front back
  have read : ofTokens front = .ok ⟨⟨0, 4⟩, [⟨⟨0⟩, ⟨0, 4⟩, .message "a" "b" ""⟩]⟩ :=
    ofTokens_eq_ok.2 ⟨_, entriesFrom_of_all rfl rfl, rfl⟩
  have refused : Reader.statement "space" ⟨0, back⟩ = .error (.noMatch 2) := rfl
  have failed : entriesFrom 0 0 back = .error ((Refusal.noMatch 2).toError 0 back) :=
    entriesFrom_of_error rfl refused
  have complete : Complete front := .inr ⟨⟨_, read⟩, ⟨.semicolon, ";"⟩, rfl, rfl⟩
  obtain ⟨p, first, _, error⟩ := ofTokens_append_of_complete complete back
  obtain ⟨q, first', both, _⟩ := ofTokens_append_of_complete complete front
  cases first'.symm.trans read
  exact ⟨complete, error _ (ofTokens_eq_error.2 failed), both _ read⟩

end Program

end SequenceChart
