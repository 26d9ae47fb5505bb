import SequenceChart.Program.Parse
import SequenceChart.Proofs.Reading

/-!
Programs are read by their grammar. The readers of single statements take exactly the tokens of a
clause and its end; where two of them are tried, no clause of the second fits the first.
-/

namespace SequenceChart

open Grammar

namespace Reader

variable {α : Type} {n : Nat} {s : Statement} {after c : Cursor} {t : Token}
  {ts rest : List Token}

/-! Items at the front of a list. -/

theorem name_append (i : NameItem) (rest : List Token) :
    name ⟨n, i.tokens ++ rest⟩ = .ok (i.text, ⟨n + i.tokens.length, rest⟩) :=
  name_eq_ok.2 ⟨i, rfl, rfl, rfl⟩

theorem keyword_append {word : String} (i : Item .word (· = word)) (rest : List Token) :
    keyword word ⟨n, i.tokens ++ rest⟩ = .ok ((), ⟨n + i.tokens.length, rest⟩) :=
  keyword_eq_ok.2 ⟨i, rfl, rfl⟩

theorem symbol_append {kind : Token.Kind} (i : Mark kind) (rest : List Token)
    (solid : kind ≠ .space) :
    symbol kind ⟨n, i.tokens ++ rest⟩ = .ok ((), ⟨n + i.tokens.length, rest⟩) :=
  (symbol_eq_ok kind solid).2 ⟨i, rfl, rfl⟩

theorem keyword_lead (word : String) (rest : List Token) :
    keyword word ⟨n, ⟨.word, word⟩ :: rest⟩ = .ok ((), ⟨n + 1, rest⟩) :=
  keyword_append ⟨⟨[], nofun⟩, word, rfl⟩ rest

theorem name_lead {s : String} (valid : Name.Valid s) (rest : List Token) :
    name ⟨n, ⟨.word, s⟩ :: rest⟩ = .ok (s, ⟨n + 1, rest⟩) :=
  name_append ⟨⟨[], nofun⟩, s, valid⟩ rest

theorem name_lead_of_ok {s : String} (word : t.kind = .word)
    (read : name ⟨n, t :: ts⟩ = .ok (s, c)) :
    Name.Valid s ∧ t = ⟨.word, s⟩ ∧ c = ⟨n + 1, ts⟩ := by
  obtain ⟨i, taken, count, rfl⟩ := name_eq_ok.1 read
  obtain ⟨_, text⟩ := t
  cases word
  let lead : Mark .word := ⟨⟨[], nofun⟩, text, trivial⟩
  have taken : lead.tokens ++ ts = i.tokens ++ c.rest := taken
  obtain ⟨blanks, tokens, rests⟩ := lead.append_inj i nofun nofun taken
  cases c
  cases rests
  refine ⟨i.accepted, tokens, ?_⟩
  rw [i.length_tokens, ← blanks] at count
  cases count
  rfl

/-! Readers of clauses. -/

/-- The reader for statements of the clause's kind. -/
def ofClause : Clause → Reader Statement
  | .declaration .. => declaration
  | .message .. => message
  | .note side .. => note side

theorem ok_congr {s : Statement} {m m' : Nat} (count : m = m') :
    (.ok (s, ⟨m, rest⟩) : Except Refusal (Statement × Cursor)) = .ok (s, ⟨m', rest⟩) := by
  rw [count]

/-- Each clause is read, together with the token that ends it if there is one. -/
theorem ofClause_append (c : Clause) (stop : AtEnd rest) :
    ofClause c ⟨0, c.tokens ++ rest⟩ =
      .ok (c.statement, ⟨c.tokens.length + (rest.take 1).length, rest.drop 1⟩) := by
  cases c with
  | declaration first others blanks =>
      have read := names_eq_ok (n := 0 + 1 + first.tokens.length) (c := ⟨_, rest⟩).2
        ⟨others, blanks, rfl, stop, rfl, rfl⟩
      simp only [ofClause, Clause.tokens, Clause.tail, List.cons_append, List.append_assoc]
        at read ⊢
      apply (bind_of_ok (keyword_lead _ _)).trans
      apply (bind_of_ok (name_append first _)).trans
      apply (bind_of_ok read).trans
      apply (bind_of_ok (endOfStatement_of_atEnd stop)).trans
      exact ok_congr (by simp only [List.length_cons, List.length_append]; omega)
  | message sender arrow receiver label =>
      simp only [ofClause, Clause.tokens, Clause.tail, List.cons_append, List.append_assoc]
      apply (bind_of_ok (name_lead sender.2 _)).trans
      apply (bind_of_ok (symbol_append arrow _ (by decide))).trans
      apply (bind_of_ok (name_append receiver _)).trans
      apply (bind_of_ok (label_append label stop)).trans
      apply (bind_of_ok (endOfStatement_of_atEnd stop)).trans
      exact ok_congr (by simp only [List.length_cons, List.length_append]; omega)
  | note side of participant colon run =>
      simp only [ofClause, Clause.tokens, Clause.tail, List.cons_append, List.append_assoc]
      apply (bind_of_ok (keyword_lead _ _)).trans
      apply (bind_of_ok (keyword_append of _)).trans
      apply (bind_of_ok (name_append participant _)).trans
      apply (bind_of_ok (symbol_append colon _ (by decide))).trans
      apply (bind_of_ok (body_append run stop)).trans
      apply (bind_of_ok (endOfStatement_of_atEnd stop)).trans
      exact ok_congr (by simp only [List.length_cons, List.length_append]; omega)

/-- A clause of the reader's kind stands at the front of the list, and a statement may end there. -/
def HasClause (p : Reader Statement) (ts : List Token) : Prop :=
  ∃ (c : Clause) (rest : List Token), ofClause c = p ∧ AtEnd rest ∧ ts = c.tokens ++ rest

theorem declaration_of_ok (read : declaration ⟨0, ⟨.word, "object"⟩ :: ts⟩ = .ok (s, after)) :
    HasClause declaration (⟨.word, "object"⟩ :: ts) := by
  have behind_lead := (bind_of_ok (keyword_lead "object" ts)).symm.trans read
  obtain ⟨_, ⟨_, _⟩, read_first, behind_first⟩ := bind_eq_ok.1 behind_lead
  obtain ⟨first, rfl, _, _⟩ := name_eq_ok.1 read_first
  obtain ⟨_, ⟨_, rest⟩, read_others, _⟩ := bind_eq_ok.1 behind_first
  obtain ⟨others, blanks, rfl, stop, _, _⟩ := names_eq_ok.1 read_others
  refine ⟨.declaration first others blanks, rest, rfl, stop, ?_⟩
  simp only [Clause.tokens, Clause.tail, List.cons_append, List.append_assoc]
  rfl

theorem message_of_ok (word : t.kind = .word) (read : message ⟨0, t :: ts⟩ = .ok (s, after)) :
    HasClause message (t :: ts) := by
  obtain ⟨sender, ⟨_, _⟩, read_sender, behind_sender⟩ := bind_eq_ok.1 read
  obtain ⟨valid, rfl, ⟨⟩⟩ := name_lead_of_ok word read_sender
  obtain ⟨_, ⟨_, _⟩, read_arrow, behind_arrow⟩ := bind_eq_ok.1 behind_sender
  obtain ⟨arrow, rfl, _⟩ := (symbol_eq_ok .arrow nofun).1 read_arrow
  obtain ⟨_, ⟨_, behind⟩, read_receiver, behind_receiver⟩ := bind_eq_ok.1 behind_arrow
  obtain ⟨receiver, rfl, _, _⟩ := name_eq_ok.1 read_receiver
  rcases label_cases behind with ⟨label, rest, stop, rfl⟩ |
    ⟨blanks, t, rest, solid, other, inside, rfl⟩
  · refine ⟨.message ⟨sender, valid⟩ arrow receiver label, rest, rfl, stop, ?_⟩
    simp only [Clause.tokens, Clause.tail, List.cons_append, List.append_assoc]
    rfl
  · rw [label_end_of_token blanks.2 solid other inside] at behind_receiver
    contradiction

theorem note_of_ok {side : Side}
    (read : note side ⟨0, ⟨.word, sideWord side⟩ :: ts⟩ = .ok (s, after)) :
    HasClause (note side) (⟨.word, sideWord side⟩ :: ts) := by
  have behind_lead := (bind_of_ok (keyword_lead (sideWord side) ts)).symm.trans read
  obtain ⟨_, ⟨_, _⟩, read_of, behind_of⟩ := bind_eq_ok.1 behind_lead
  obtain ⟨of, rfl, _⟩ := keyword_eq_ok.1 read_of
  obtain ⟨_, ⟨_, _⟩, read_participant, behind_participant⟩ := bind_eq_ok.1 behind_of
  obtain ⟨participant, rfl, _, _⟩ := name_eq_ok.1 read_participant
  obtain ⟨_, ⟨_, _⟩, read_colon, behind_colon⟩ := bind_eq_ok.1 behind_participant
  obtain ⟨colon, rfl, _⟩ := (symbol_eq_ok .colon nofun).1 read_colon
  obtain ⟨_, ⟨_, rest⟩, read_body, _⟩ := bind_eq_ok.1 behind_colon
  obtain ⟨run, rfl, stop, _, _⟩ := body_eq_ok.1 read_body
  refine ⟨.note side of participant colon run, rest, rfl, stop, ?_⟩
  simp only [Clause.tokens, Clause.tail, List.cons_append, List.append_assoc]
  rfl

/-! Space statements. -/

theorem space_append (amount : Item .word IsGap) (rest : List Token) :
    space ⟨0, (Phrase.gap amount).tokens ++ rest⟩ =
      .ok ((Phrase.gap amount).statement, ⟨(Phrase.gap amount).tokens.length, rest⟩) := by
  have read := gap_eq_ok (n := 0 + 1) (c := ⟨_, rest⟩).2 ⟨amount, rfl, rfl, rfl⟩
  apply (bind_of_ok (keyword_lead "space" _)).trans
  apply (bind_of_ok read).trans
  exact ok_congr (by simp only [Phrase.tokens, Phrase.tail, List.length_cons]; omega)

theorem space_of_ok (read : space ⟨0, ⟨.word, "space"⟩ :: ts⟩ = .ok (s, after)) :
    ∃ (amount : Item .word IsGap) (rest : List Token),
      ⟨.word, "space"⟩ :: ts = (Phrase.gap amount).tokens ++ rest := by
  have behind_lead := (bind_of_ok (keyword_lead "space" ts)).symm.trans read
  obtain ⟨_, ⟨_, rest⟩, read_gap, _⟩ := bind_eq_ok.1 behind_lead
  obtain ⟨amount, rfl, _, _⟩ := gap_eq_ok.1 read_gap
  exact ⟨amount, rest, rfl⟩

/-! Messages whose sender is spelled like a keyword. -/

section

variable {p q : Reader α} {a : α}

theorem either_of_ok (read : p c = .ok (a, after)) : either p q c = .ok (a, after) := by
  rw [either, read]

theorem either_of_noMatch {offset : Nat} (refused : p c = .error (.noMatch offset))
    (read : q c = .ok (a, after)) : either p q c = .ok (a, after) := by
  rw [either, refused]
  simp only [read]

theorem of_either_eq_ok (read : either p q c = .ok (a, after)) :
    p c = .ok (a, after) ∨ q c = .ok (a, after) := by
  unfold either at read
  split at read
  · split at read
    · contradiction
    · exact .inr read
  · exact .inl read

end

theorem declaration_of_arrow (arrow : Mark .arrow) (rest : List Token) :
    declaration ⟨0, ⟨.word, "object"⟩ :: (arrow.tokens ++ rest)⟩ =
      .error (.noMatch (0 + 1 + arrow.blanks.1.length)) := by
  have refused : name ⟨0 + 1, arrow.tokens ++ rest⟩ =
      .error (.noMatch (0 + 1 + arrow.blanks.1.length)) := by
    rw [arrow.tokens_append]
    exact bind_of_error (take_of_token arrow.blanks.2 nofun)
  exact (bind_of_ok (keyword_lead "object" _)).trans (bind_of_error refused)

theorem note_of_arrow (side : Side) (arrow : Mark .arrow) (rest : List Token) :
    note side ⟨0, ⟨.word, sideWord side⟩ :: (arrow.tokens ++ rest)⟩ =
      .error (.noMatch (0 + 1 + arrow.blanks.1.length)) := by
  have refused : keyword "of" ⟨0 + 1, arrow.tokens ++ rest⟩ =
      .error (.noMatch (0 + 1 + arrow.blanks.1.length)) := by
    rw [arrow.tokens_append]
    exact bind_of_error (take_of_token arrow.blanks.2 nofun)
  exact (bind_of_ok (keyword_lead (sideWord side) _)).trans (bind_of_error refused)

/-! The choice by the leading word. -/

theorem statement_cases (lead : String) :
    lead = "object" ∧ statement lead = either declaration message ∨
    (∃ side, lead = sideWord side ∧ statement lead = either (note side) message) ∨
    lead = "space" ∧ statement lead = space ∨
    lead ∈ Name.blockWords ∧ statement lead = block lead ∨
    statement lead = message := by
  unfold statement
  split
  · exact .inl ⟨by assumption, rfl⟩
  · split
    · exact .inr (.inl ⟨.left, by assumption, rfl⟩)
    · split
      · exact .inr (.inl ⟨.right, by assumption, rfl⟩)
      · split
        · exact .inr (.inr (.inl ⟨by assumption, rfl⟩))
        · split
          · exact .inr (.inr (.inr (.inl ⟨by assumption, rfl⟩)))
          · exact .inr (.inr (.inr (.inr rfl)))

theorem statement_sideWord (side : Side) :
    statement (sideWord side) = either (note side) message := by
  cases side with
  | left => rfl
  | right => rfl

theorem statement_clause (c : Clause) (stop : AtEnd rest) :
    statement c.lead ⟨0, c.tokens ++ rest⟩ =
      .ok (c.statement, ⟨c.tokens.length + (rest.take 1).length, rest.drop 1⟩) := by
  have read := ofClause_append c stop
  cases c with
  | declaration first others blanks => exact either_of_ok read
  | note side of participant colon run =>
      rw [Clause.lead, statement_sideWord]
      exact either_of_ok read
  | message sender arrow receiver label =>
      obtain ⟨sender, valid⟩ := sender
      have same : (Clause.message ⟨sender, valid⟩ arrow receiver label).tokens ++ rest =
          ⟨.word, sender⟩ :: (arrow.tokens ++ (receiver.tokens ++ (label.tokens ++ rest))) := by
        simp only [Clause.tokens, Clause.tail, List.cons_append, List.append_assoc]
        rfl
      rw [same] at read ⊢
      rw [Clause.lead]
      rcases statement_cases sender with ⟨rfl, chosen⟩ | ⟨side, rfl, chosen⟩ | ⟨rfl, _⟩ |
        ⟨block, _⟩ | chosen
      · rw [chosen]
        exact either_of_noMatch (declaration_of_arrow arrow _) read
      · rw [chosen]
        exact either_of_noMatch (note_of_arrow side arrow _) read
      · exact (valid.not_reserved (by decide)).elim
      · exact (valid.not_reserved (List.mem_append_left ["note", "space"] block)).elim
      · rw [chosen]
        exact read

theorem statement_append (p : Phrase) (rest : List Token) :
    statement p.lead ⟨0, p.tokens ++ rest⟩ = .ok (p.statement, ⟨p.tokens.length, rest⟩) := by
  cases p with
  | ended clause ending =>
      rw [Phrase.tokens_ended, List.append_assoc]
      refine (statement_clause clause (by rintro _ ⟨⟩; exact ending.2)).trans ?_
      exact ok_congr (by rw [List.length_append]; rfl)
  | gap amount => exact space_append amount rest

theorem statement_unended (c : Clause) :
    statement c.lead ⟨0, c.tokens⟩ = .ok (c.statement, ⟨c.tokens.length, []⟩) := by
  have read : statement c.lead ⟨0, c.tokens ++ []⟩ = _ := statement_clause c nofun
  rwa [List.append_nil] at read

/-- The list starts with a phrase, or it is a clause that lacks its end. -/
def StartsStatement (ts : List Token) : Prop :=
  (∃ (p : Phrase) (rest : List Token), ts = p.tokens ++ rest) ∨ ∃ c : Clause, ts = c.tokens

theorem HasClause.startsStatement {p : Reader Statement} (has : HasClause p ts) :
    StartsStatement ts := by
  obtain ⟨c, rest, _, stop, rfl⟩ := has
  cases rest with
  | nil => exact .inr ⟨c, List.append_nil _⟩
  | cons ending rest =>
      refine .inl ⟨.ended c ⟨ending, stop ending rfl⟩, rest, ?_⟩
      rw [Phrase.tokens_ended, List.append_assoc]
      rfl

theorem statement_of_ok (word : t.kind = .word)
    (read : statement t.text ⟨0, t :: ts⟩ = .ok (s, after)) : StartsStatement (t :: ts) := by
  obtain ⟨_, lead⟩ := t
  obtain rfl : _ = Token.Kind.word := word
  rcases statement_cases lead with ⟨rfl, chosen⟩ | ⟨side, rfl, chosen⟩ | ⟨rfl, chosen⟩ |
    ⟨_, chosen⟩ | chosen <;> rw [chosen] at read
  · rcases of_either_eq_ok read with read | read
    · exact (declaration_of_ok read).startsStatement
    · exact (message_of_ok rfl read).startsStatement
  · rcases of_either_eq_ok read with read | read
    · exact (note_of_ok read).startsStatement
    · exact (message_of_ok rfl read).startsStatement
  · obtain ⟨amount, rest, same⟩ := space_of_ok read
    exact .inl ⟨.gap amount, rest, same⟩
  · contradiction
  · exact (message_of_ok rfl read).startsStatement

end Reader

namespace Program

variable {start index : Nat} {t : Token} {ts : List Token} {es : List Entry}

theorem entriesFrom_loose (loose : t.kind ≠ .word) :
    entriesFrom start index (t :: ts) = entriesFrom (start + 1) index ts := by
  rw [entriesFrom, if_neg loose]

theorem entriesFrom_of_ok {s : Statement} {c : Cursor} (word : t.kind = .word)
    (read : Reader.statement t.text ⟨0, t :: ts⟩ = .ok (s, c)) :
    entriesFrom start index (t :: ts) =
      (entriesFrom (start + c.taken) (index + 1) (ts.drop (c.taken - 1))).map
        (⟨⟨index⟩, ⟨start, c.taken⟩, s⟩ :: ·) := by
  rw [entriesFrom, if_pos word, read]
  rfl

theorem entriesFrom_phrase (start index : Nat) (p : Phrase) (ts : List Token) :
    entriesFrom start index (p.tokens ++ ts) =
      (entriesFrom (start + p.tokens.length) (index + 1) ts).map
        (⟨⟨index⟩, ⟨start, p.tokens.length⟩, p.statement⟩ :: ·) := by
  have read := Reader.statement_append p ts
  rw [Phrase.tokens, List.cons_append] at read ⊢
  rw [entriesFrom_of_ok rfl read, List.length_cons, Nat.add_sub_cancel, List.drop_left]

/-- A statement that takes all tokens is the only one. -/
theorem entriesFrom_of_all {s : Statement} (word : t.kind = .word)
    (read : Reader.statement t.text ⟨0, t :: ts⟩ = .ok (s, ⟨(t :: ts).length, []⟩)) :
    entriesFrom start index (t :: ts) = .ok [⟨⟨index⟩, ⟨start, (t :: ts).length⟩, s⟩] := by
  rw [entriesFrom_of_ok word read, List.length_cons, Nat.add_sub_cancel, List.drop_length,
    entriesFrom]
  rfl

theorem entriesFrom_unended (start index : Nat) (c : Clause) :
    entriesFrom start index c.tokens =
      .ok [⟨⟨index⟩, ⟨start, c.tokens.length⟩, c.statement⟩] :=
  entriesFrom_of_all rfl (Reader.statement_unended c)

theorem entriesFrom_tokens (d : Derivation) :
    entriesFrom start index d.tokens = .ok (d.entries start index) := by
  induction d generalizing start index with
  | done => rw [Derivation.tokens, entriesFrom, Derivation.entries]
  | loose token rest ih => rw [Derivation.tokens, entriesFrom_loose token.2, ih, Derivation.entries]
  | phrase p rest ih =>
      rw [Derivation.tokens, entriesFrom_phrase, ih, Derivation.entries]
      rfl
  | unended clause => exact entriesFrom_unended start index clause

theorem entriesFrom_of_error {r : Refusal} (word : t.kind = .word)
    (refused : Reader.statement t.text ⟨0, t :: ts⟩ = .error r) :
    entriesFrom start index (t :: ts) = .error (r.toError start (t :: ts)) := by
  rw [entriesFrom, if_pos word, refused]

/-- A list of tokens is built up from phrases, until it ends or a statement is refused. -/
theorem phrase_induction {motive : List Token → Prop} (done : motive [])
    (loose : ∀ t ts, t.kind ≠ .word → motive ts → motive (t :: ts))
    (phrase : ∀ (p : Phrase) ts, motive ts → motive (p.tokens ++ ts))
    (unended : ∀ c : Clause, motive c.tokens)
    (refused : ∀ t ts r, t.kind = .word →
      Reader.statement t.text ⟨0, t :: ts⟩ = .error r → motive (t :: ts))
    (ts : List Token) : motive ts := by
  induction count : ts.length using Nat.strong_induction_on generalizing ts with
  | _ _ ih =>
      subst count
      cases ts with
      | nil => exact done
      | cons t ts =>
          by_cases word : t.kind = .word
          · cases read : Reader.statement t.text ⟨0, t :: ts⟩ with
            | error r => exact refused t ts r word read
            | ok x =>
                rcases Reader.statement_of_ok word read with ⟨p, rest, same⟩ | ⟨c, same⟩
                · have shorter : rest.length < (t :: ts).length := by
                    rw [same, Phrase.tokens, List.length_append, List.length_cons]
                    omega
                  rw [same]
                  exact phrase p rest (ih _ shorter rest rfl)
                · rw [same]
                  exact unended c
          · exact loose t ts word (ih _ (Nat.lt_succ_self _) ts rfl)

theorem exists_derivation (read : entriesFrom start index ts = .ok es) :
    ∃ d : Derivation, d.tokens = ts := by
  induction ts using phrase_induction generalizing start index es with
  | done => exact ⟨.done, rfl⟩
  | loose t ts loose ih =>
      rw [entriesFrom_loose loose] at read
      obtain ⟨d, rfl⟩ := ih read
      exact ⟨.loose ⟨t, loose⟩ d, rfl⟩
  | phrase p ts ih =>
      rw [entriesFrom_phrase] at read
      cases others : entriesFrom (start + p.tokens.length) (index + 1) ts with
      | error e =>
          rw [others] at read
          contradiction
      | ok es =>
          obtain ⟨d, rfl⟩ := ih others
          exact ⟨.phrase p d, rfl⟩
  | unended c => exact ⟨.unended c, rfl⟩
  | refused t ts r word refused =>
      rw [entriesFrom_of_error word refused] at read
      contradiction

theorem ofTokens_eq_ok {p : Program} : ofTokens ts = .ok p ↔
    ∃ es, entriesFrom 0 0 ts = .ok es ∧ ⟨⟨0, ts.length⟩, es⟩ = p := by
  cases read : entriesFrom 0 0 ts with
  | error e =>
      rw [ofTokens, read]
      constructor
      · rintro ⟨⟩
      · rintro ⟨_, ⟨⟩, _⟩
  | ok es =>
      rw [ofTokens, read]
      constructor
      · rintro ⟨⟩
        exact ⟨es, rfl, rfl⟩
      · rintro ⟨_, ⟨⟩, rfl⟩
        rfl

theorem ofTokens_eq_error {e : ParseError} :
    ofTokens ts = .error e ↔ entriesFrom 0 0 ts = .error e := by
  cases read : entriesFrom 0 0 ts with
  | error e' =>
      rw [ofTokens, read]
      constructor
      · rintro ⟨⟩
        rfl
      · rintro ⟨⟩
        rfl
  | ok es =>
      rw [ofTokens, read]
      constructor
      · rintro ⟨⟩
      · rintro ⟨⟩

/-- Programs are exactly the lists that the grammar derives, read as their only derivation says. -/
theorem ofTokens_iff_derivation (ts : List Token) :
    (∀ p, ofTokens ts = .ok p ↔ ∃ d : Derivation, d.tokens = ts ∧ d.program = p) ∧
      ∀ d d' : Derivation, d.tokens = ts → d'.tokens = ts → d = d' := by
  constructor
  · intro p
    rw [ofTokens_eq_ok]
    constructor
    · rintro ⟨es, read, rfl⟩
      obtain ⟨d, rfl⟩ := exists_derivation read
      rw [entriesFrom_tokens] at read
      cases read
      exact ⟨d, rfl, rfl⟩
    · rintro ⟨d, rfl, rfl⟩
      exact ⟨d.entries 0 0, entriesFrom_tokens d, rfl⟩
  · rintro d d' rfl same
    exact Derivation.tokens_inj same.symm

end Program

end SequenceChart
