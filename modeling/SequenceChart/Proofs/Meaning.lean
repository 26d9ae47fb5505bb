import SequenceChart.Proofs.Concatenation
import SequenceChart.Proofs.FailurePosition

/-!
What a token list means wherever its tokens stand: a diagram, or an error without its position. A
token that ends a statement cuts a list in two, and neither part depends on the other: the list
means what the parts mean one after the other, or the first error of them.
-/

namespace SequenceChart

/-- The same error of another token. -/
def ParseError.movedTo (index : Nat) : ParseError → ParseError
  | .unexpected _ found => .unexpected index found
  | .unsupported _ keyword => .unsupported index keyword
  | .invalidGap _ text => .invalidGap index text

theorem ParseError.eq_movedTo {e e' : ParseError} (same : e.movedTo 0 = e'.movedTo 0) :
    e' = e.movedTo e'.tokenIndex := by
  cases e <;> cases e' <;> cases same <;> rfl

namespace Program

open Grammar Reader

variable {t : Token} {ts xs ys : List Token} {r : Refusal}

/-- What has been read, without positions. -/
def unplaced (read : Except ParseError (List Entry)) : Except ParseError Diagram :=
  (read.mapError (·.movedTo 0)).map (List.map Entry.statement)

def meaning (ts : List Token) : Except ParseError Diagram :=
  unplaced (entriesFrom 0 0 ts)

theorem unplaced_map_cons (entry : Entry) (read : Except ParseError (List Entry)) :
    unplaced (read.map (entry :: ·)) = (unplaced read).map (entry.statement :: ·) := by
  cases read <;> rfl

/-- What a list means does not depend on where it stands. -/
theorem unplaced_entriesFrom (start index : Nat) (ts : List Token) :
    unplaced (entriesFrom start index ts) = meaning ts := by
  have moved := entriesFrom_add 0 0 start index ts
  rw [Nat.zero_add, Nat.zero_add] at moved
  rw [moved, meaning]
  cases entriesFrom 0 0 ts with
  | error e => cases e <;> rfl
  | ok es =>
      have statements : (es.map (Entry.movedBy start index)).map Entry.statement =
          es.map Entry.statement := by rw [List.map_map]; rfl
      exact congrArg Except.ok statements

/-! The meaning of a list by what it starts with. -/

theorem meaning_nil : meaning [] = .ok [] := by
  rw [meaning, entriesFrom]
  rfl

theorem meaning_loose (loose : t.kind ≠ .word) (ts : List Token) :
    meaning (t :: ts) = meaning ts := by
  rw [meaning, entriesFrom_loose loose]
  exact unplaced_entriesFrom _ _ ts

theorem meaning_phrase (p : Phrase) (ts : List Token) :
    meaning (p.tokens ++ ts) = (meaning ts).map (p.statement :: ·) := by
  rw [meaning, entriesFrom_phrase, unplaced_map_cons]
  exact congrArg _ (unplaced_entriesFrom _ _ ts)

theorem meaning_unended (c : Clause) : meaning c.tokens = .ok [c.statement] := by
  rw [meaning, entriesFrom_unended]
  rfl

theorem meaning_ended (c : Clause) (ends : t.kind.endsStatement = true) (ts : List Token) :
    meaning (c.tokens ++ t :: ts) = (meaning ts).map (c.statement :: ·) := by
  have phrase := meaning_phrase (.ended c ⟨t, ends⟩) ts
  rwa [Phrase.tokens_ended, List.append_assoc] at phrase

theorem meaning_refused (word : t.kind = .word)
    (refused : statement t.text ⟨0, t :: ts⟩ = .error r) :
    meaning (t :: ts) = .error ((r.toError 0 (t :: ts)).movedTo 0) := by
  rw [meaning, entriesFrom_of_error word refused]
  rfl

theorem loose_of_ends (ends : t.kind.endsStatement = true) : t.kind ≠ .word := by
  intro word
  rw [word] at ends
  contradiction

theorem meaning_blanks {blanks : List Token} (blank : ∀ t ∈ blanks, t.kind = .space)
    (ts : List Token) : meaning (blanks ++ ts) = meaning ts := by
  induction blanks with
  | nil => rfl
  | cons t blanks ih =>
      obtain ⟨space, blank⟩ := List.forall_mem_cons.1 blank
      rw [List.cons_append, meaning_loose (by simp [space]), ih blank]

end Program

namespace Grammar

variable {t : Token} {xs ys : List Token}

theorem Clause.not_mem_tokens (c : Clause) (ends : t.kind.endsStatement = true) :
    t ∉ c.tokens := by
  intro mem
  rw [c.runs_on t mem] at ends
  contradiction

/-- A token that ends a statement can only be the last one of a phrase. -/
theorem Phrase.clause_of_cut {p : Phrase} (ends : t.kind.endsStatement = true)
    (cut : p.tokens = xs ++ t :: ys) : ∃ c : Clause, xs = c.tokens := by
  cases p with
  | gap amount =>
      have inside : ∀ u ∈ (Phrase.gap amount).tokens, u.kind.endsStatement = false :=
        List.forall_mem_cons.2 ⟨rfl, amount.runs_on rfl⟩
      rw [inside t (by simp [cut])] at ends
      contradiction
  | ended c ending =>
      rw [tokens_ended] at cut
      cases List.eq_nil_or_concat ys with
      | inl last =>
          rw [last] at cut
          exact ⟨c, (List.append_inj_left' cut rfl).symm⟩
      | inr more =>
          obtain ⟨others, last, same⟩ := more
          rw [same, List.concat_eq_append, ← List.cons_append, ← List.append_assoc] at cut
          have within := List.append_inj_left' cut rfl
          exact (c.not_mem_tokens ends (by simp [within])).elim

end Grammar

namespace Reader

open Grammar

variable {t : Token} {xs ys : List Token}

/-- No statement goes on behind a token that ends one. -/
theorem StartsStatement.of_append (ends : t.kind.endsStatement = true)
    (starts : StartsStatement (xs ++ t :: ys)) : StartsStatement xs := by
  cases starts with
  | inr clause =>
      obtain ⟨c, same⟩ := clause
      exact (c.not_mem_tokens ends (by simp [← same])).elim
  | inl phrase =>
      obtain ⟨p, rest, same⟩ := phrase
      cases List.append_eq_append_iff.1 same with
      | inl longer =>
          obtain ⟨more, tokens, others⟩ := longer
          cases more with
          | nil => exact .inl ⟨p, [], by rw [tokens, List.append_nil]; simp⟩
          | cons u more =>
              cases (List.cons.inj others).1
              exact .inr (Phrase.clause_of_cut ends tokens)
      | inr shorter =>
          obtain ⟨more, tokens, _⟩ := shorter
          exact .inl ⟨p, more, tokens⟩

theorem exists_read {t : Token} {ts : List Token} (starts : StartsStatement (t :: ts)) :
    ∃ s after, statement t.text ⟨0, t :: ts⟩ = .ok (s, after) := by
  cases starts with
  | inl phrase =>
      obtain ⟨p, rest, same⟩ := phrase
      have lead : t.text = p.lead := congrArg Token.text (List.cons.inj same).1
      rw [same, lead]
      exact ⟨_, _, statement_append p rest⟩
  | inr clause =>
      obtain ⟨c, same⟩ := clause
      have lead : t.text = c.lead := congrArg Token.text (List.cons.inj same).1
      rw [same, lead]
      exact ⟨_, _, statement_unended c⟩

end Reader

namespace Program

open Grammar Reader

variable {t u : Token} {ts xs ys : List Token} {r : Refusal}

/-- Tokens that start no statement, whatever follows them, are refused whatever follows them. -/
theorem meaning_stuck (word : t.kind = .word)
    (stuck : ∀ ys, ¬ StartsStatement (t :: ts ++ ys)) :
    ∃ e, ∀ ys, meaning (t :: ts ++ ys) = .error e := by
  cases read : statement t.text ⟨0, t :: ts⟩ with
  | ok x =>
      have starts := statement_of_ok word read
      rw [← List.append_nil (t :: ts)] at starts
      exact (stuck [] starts).elim
  | error r =>
      obtain ⟨taken, rest, same, blame⟩ := statement_blames word read
      cases rest with
      | nil =>
          -- All tokens were taken, so some statement goes on from here.
          rw [List.append_nil] at same
          cases blame.viable with
          | inl none => simp [none] at same
          | inr completed =>
              obtain ⟨more, _, reads⟩ := completed
              have completed := reads []
              rw [← same, List.append_nil, List.cons_append] at completed
              exact (stuck more (statement_of_ok word completed)).elim
      | cons v others =>
          refine ⟨(r.toError 0 (taken ++ v :: others)).movedTo 0, fun ys => ?_⟩
          have longer : t :: (ts ++ ys) = taken ++ v :: (others ++ ys) := by
            rw [← List.cons_append, same, List.append_assoc, List.cons_append]
          have again := blame.refused v rfl (others ++ ys)
          have same_error : r.toError 0 (taken ++ v :: (others ++ ys)) =
              r.toError 0 (taken ++ v :: others) := toError_congr blame.offset rfl
          rw [← longer] at again
          rw [List.cons_append, meaning_refused word again, longer, same_error]

/-- A refused statement is refused by the next token that ends one, if not before. -/
theorem meaning_refused_append (word : t.kind = .word)
    (refused : statement t.text ⟨0, t :: xs⟩ = .error r) (ends : u.kind.endsStatement = true) :
    ∃ e, ∀ ys, meaning (t :: xs ++ u :: ys) = .error e := by
  have stuck : ∀ ys, ¬ StartsStatement (t :: (xs ++ [u]) ++ ys) := by
    intro ys starts
    rw [List.cons_append, List.append_assoc] at starts
    obtain ⟨s, after, read⟩ := exists_read (StartsStatement.of_append ends starts)
    rw [refused] at read
    contradiction
  obtain ⟨e, again⟩ := meaning_stuck word stuck
  refine ⟨e, fun ys => ?_⟩
  rw [← again ys, List.cons_append, List.cons_append, List.append_assoc]
  rfl

/-- The part of a list behind a token that ends a statement is read by itself. -/
theorem meaning_append (ends : u.kind.endsStatement = true) (xs ys : List Token) :
    meaning (xs ++ u :: ys) = do
      let front ← meaning (xs ++ [u])
      let back ← meaning ys
      return front ++ back := by
  induction xs using phrase_induction with
  | done =>
      have loose := loose_of_ends ends
      rw [List.nil_append, List.nil_append, meaning_loose loose, meaning_loose loose, meaning_nil]
      cases meaning ys <;> rfl
  | loose t xs loose ih =>
      rw [List.cons_append, List.cons_append, meaning_loose loose, meaning_loose loose, ih]
  | phrase p xs ih =>
      rw [List.append_assoc, List.append_assoc, meaning_phrase, meaning_phrase, ih]
      cases meaning (xs ++ [u]) with
      | error e => rfl
      | ok front => cases meaning ys <;> rfl
  | unended c =>
      rw [meaning_ended c ends, meaning_ended c ends, meaning_nil]
      cases meaning ys <;> rfl
  | refused t xs r word refused =>
      obtain ⟨e, again⟩ := meaning_refused_append word refused ends
      rw [again, again]
      rfl

theorem map_eq_ok {ε α β : Type} {f : α → β} {x : Except ε α} {b : β} :
    x.map f = .ok b ↔ ∃ a, x = .ok a ∧ f a = b := by
  cases x <;> simp [Except.map]

/-- The end of a statement may as well be the end of the list. -/
theorem meaning_end (ends : u.kind.endsStatement = true) (xs : List Token) (d : Diagram) :
    meaning (xs ++ [u]) = .ok d ↔ meaning xs = .ok d := by
  induction xs using phrase_induction generalizing d with
  | done => rw [List.nil_append, meaning_loose (loose_of_ends ends)]
  | loose t xs loose ih => rw [List.cons_append, meaning_loose loose, meaning_loose loose, ih]
  | phrase p xs ih =>
      simp only [List.append_assoc, meaning_phrase, map_eq_ok, ih]
  | unended c =>
      rw [meaning_ended c ends, meaning_nil, meaning_unended]
      rfl
  | refused t xs r word refused =>
      obtain ⟨e, again⟩ := meaning_refused_append word refused ends
      rw [again, meaning_refused word refused]
      constructor <;> intro impossible <;> contradiction

theorem meaning_append_eq_ok (ends : u.kind.endsStatement = true) (xs ys : List Token)
    (d : Diagram) : meaning (xs ++ u :: ys) = .ok d ↔
      ∃ front back, meaning xs = .ok front ∧ meaning ys = .ok back ∧ front ++ back = d := by
  rw [meaning_append ends]
  cases front : meaning (xs ++ [u]) with
  | error e =>
      have refused : ∀ d, meaning xs ≠ .ok d := by
        intro d read
        rw [(meaning_end ends xs d).2 read] at front
        contradiction
      constructor
      · intro impossible
        contradiction
      · intro read
        obtain ⟨d, _, read, _⟩ := read
        exact (refused d read).elim
  | ok d =>
      rw [meaning_end ends] at front
      cases meaning ys with
      | error e => simp [front, bind, Except.bind]
      | ok d' => simp [front, bind, Except.bind, pure, Except.pure]

/-! Programs by what their tokens mean. -/

theorem meaning_eq (ts : List Token) :
    meaning ts = ((ofTokens ts).map diagram).mapError (·.movedTo 0) := by
  rw [meaning, ofTokens]
  cases entriesFrom 0 0 ts <;> rfl

theorem meaning_eq_ok {d : Diagram} : meaning ts = .ok d ↔
    ∃ p, ofTokens ts = .ok p ∧ p.diagram = d := by
  rw [meaning_eq]
  cases ofTokens ts <;> simp [Except.map, Except.mapError]

theorem meaning_eq_error {e : ParseError} : meaning ts = .error e ↔
    ∃ e', ofTokens ts = .error e' ∧ e'.movedTo 0 = e := by
  rw [meaning_eq]
  cases ofTokens ts <;> simp [Except.map, Except.mapError]

/-- Token lists that mean the same have programs with the same diagram, or errors that differ in
their positions only. -/
theorem ofTokens_agree (same : meaning xs = meaning ys) :
    (∃ p q, ofTokens xs = .ok p ∧ ofTokens ys = .ok q ∧ p.diagram = q.diagram) ∨
    ∃ e e', ofTokens xs = .error e ∧ ofTokens ys = .error e' ∧ e' = e.movedTo e'.tokenIndex := by
  cases read : ofTokens xs with
  | ok p =>
      rw [meaning_eq_ok.2 ⟨p, read, rfl⟩] at same
      obtain ⟨q, read', diagram⟩ := meaning_eq_ok.1 same.symm
      exact .inl ⟨p, q, rfl, read', diagram.symm⟩
  | error e =>
      rw [meaning_eq_error.2 ⟨e, read, rfl⟩] at same
      obtain ⟨e', read', moved⟩ := meaning_eq_error.1 same.symm
      exact .inr ⟨e, e', rfl, read', ParseError.eq_movedTo moved.symm⟩

end Program

end SequenceChart
