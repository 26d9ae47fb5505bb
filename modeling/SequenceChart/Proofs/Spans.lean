import SequenceChart.Proofs.Derivation

/-!
The spans of statements. Every word of a token list that is read belongs to one statement and to no
other, and what stands between statements are marks and blanks. A statement depends on the tokens of
its span alone: read by themselves they give this statement again.
-/

namespace SequenceChart

namespace TokenSpan

def Contains (s : TokenSpan) (i : Nat) : Prop :=
  s.start ≤ i ∧ i < s.stop

/-- The tokens of the run, taken from the list that it is a run of. -/
def slice (s : TokenSpan) (ts : List Token) : List Token :=
  (ts.drop s.start).take s.length

theorem slice_append (front own back : List Token) :
    (⟨front.length, own.length⟩ : TokenSpan).slice (front ++ (own ++ back)) = own := by
  rw [slice, List.drop_left, List.take_left]

end TokenSpan

namespace Program

open Grammar

/-- Whether the tokens are those of just this statement. -/
structure Alone (ts : List Token) (s : Statement) : Prop where
  lead : ∃ t, ts[0]? = some t ∧ t.kind = .word
  read : ofTokens ts = .ok ⟨⟨0, ts.length⟩, [⟨⟨0⟩, ⟨0, ts.length⟩, s⟩]⟩

theorem alone_phrase (p : Phrase) : Alone p.tokens p.statement where
  lead := ⟨_, rfl, rfl⟩
  read := by
    have read := entriesFrom_phrase 0 0 p []
    rw [List.append_nil, entriesFrom] at read
    exact ofTokens_eq_ok.2 ⟨_, read, rfl⟩

theorem alone_clause (c : Clause) : Alone c.tokens c.statement where
  lead := ⟨_, rfl, rfl⟩
  read := ofTokens_eq_ok.2 ⟨_, entriesFrom_unended 0 0 c, rfl⟩

/-- What entries account for in a list, from token `start` on, where `index` statements come
before. -/
structure Accounts (start index : Nat) (ts : List Token) (es : List Entry) : Prop where
  ids : es.map (·.id.index) = List.range' index es.length
  inside : ∀ e ∈ es, start ≤ e.span.start ∧ 0 < e.span.length ∧ e.span.stop ≤ ts.length
  apart : es.Pairwise fun e e' => e.span.stop ≤ e'.span.start
  words : ∀ i t, start ≤ i → ts[i]? = some t → t.kind = .word → ∃ e ∈ es, e.span.Contains i
  alone : ∀ e ∈ es, Alone (e.span.slice ts) e.statement

namespace Accounts

variable {start index : Nat} {ts front own back : List Token} {es : List Entry}

theorem nil (short : ts.length ≤ start) : Accounts start index ts [] where
  ids := rfl
  inside := nofun
  apart := .nil
  words i t behind here _ := by
    rw [List.getElem?_eq_none (by omega)] at here
    contradiction
  alone := nofun

/-- A token that is no word may stand outside all spans. -/
theorem loose (no_word : ∀ t, ts[start]? = some t → t.kind ≠ .word)
    (rest : Accounts (start + 1) index ts es) : Accounts start index ts es where
  ids := rest.ids
  inside e mem := by
    have := rest.inside e mem
    omega
  apart := rest.apart
  words i t behind here word := by
    rcases Nat.eq_or_lt_of_le behind with rfl | behind
    · exact (no_word t here word).elim
    · exact rest.words i t behind here word
  alone := rest.alone

/-- A statement accounts for its own tokens, and the others go on behind them. -/
theorem statement {s : Statement} (alone : Alone own s)
    (rest : Accounts (front.length + own.length) (index + 1) (front ++ (own ++ back)) es) :
    Accounts front.length index (front ++ (own ++ back))
      (⟨⟨index⟩, ⟨front.length, own.length⟩, s⟩ :: es) where
  ids := by rw [List.map_cons, rest.ids, List.length_cons, List.range'_succ]
  inside := by
    obtain ⟨lead, here, _⟩ := alone.lead
    obtain ⟨positive, _⟩ := List.getElem?_eq_some_iff.1 here
    refine List.forall_mem_cons.2 ⟨⟨Nat.le_refl _, positive, ?_⟩, fun e mem => ?_⟩
    · simp only [TokenSpan.stop, List.length_append]
      omega
    · have := rest.inside e mem
      omega
  apart := List.pairwise_cons.2 ⟨fun e mem => (rest.inside e mem).1, rest.apart⟩
  words i t behind here word := by
    rcases Nat.lt_or_ge i (front.length + own.length) with own | later
    · exact ⟨_, List.mem_cons_self, behind, own⟩
    · obtain ⟨e, mem, contains⟩ := rest.words i t later here word
      exact ⟨e, List.mem_cons_of_mem _ mem, contains⟩
  alone := by
    refine List.forall_mem_cons.2 ⟨?_, rest.alone⟩
    rwa [TokenSpan.slice_append]

theorem unique (accounts : Accounts start index ts es) {e e' : Entry} {i : Nat} (mem : e ∈ es)
    (mem' : e' ∈ es) (contains : e.span.Contains i) (contains' : e'.span.Contains i) : e = e' := by
  have apart {e e' : Entry} (before : e.span.stop ≤ e'.span.start) (here : e.span.Contains i) :
      ¬ e'.span.Contains i := fun here' => by
    have := here.2
    have := here'.1
    omega
  exact List.Pairwise.forall_of_forall_of_flip
    (R := fun e e' => e.span.Contains i → e'.span.Contains i → e = e') (fun _ _ _ _ => rfl)
    (accounts.apart.imp fun before here here' => (apart before here here').elim)
    (accounts.apart.imp fun before here' here => (apart before here here').elim)
    mem mem' contains contains'

/-- The tokens of a span start with a word. -/
theorem lead (accounts : Accounts start index ts es) {e : Entry} (mem : e ∈ es) :
    ∃ t, ts[e.span.start]? = some t ∧ t.kind = .word := by
  obtain ⟨t, here, word⟩ := (accounts.alone e mem).lead
  have positive := (accounts.inside e mem).2.1
  rw [TokenSpan.slice, List.getElem?_take_of_lt positive, List.getElem?_drop, Nat.add_zero] at here
  exact ⟨t, here, word⟩

theorem length_slice (accounts : Accounts start index ts es) {e : Entry} (mem : e ∈ es) :
    (e.span.slice ts).length = e.span.length := by
  have inside := (accounts.inside e mem).2.2
  rw [TokenSpan.stop] at inside
  rw [TokenSpan.slice, List.length_take, List.length_drop]
  omega

end Accounts

/-- A derivation accounts for all its tokens, whatever stands before them. -/
theorem accounts_entries (d : Derivation) (front : List Token) (index : Nat) :
    Accounts front.length index (front ++ d.tokens) (d.entries front.length index) := by
  induction d generalizing front index with
  | done => exact .nil (by rw [Derivation.tokens, List.append_nil])
  | loose token rest ih =>
      have behind := ih (front ++ [token.1]) index
      rw [List.append_assoc, List.length_append] at behind
      refine .loose (fun t here => ?_) behind
      rw [Derivation.tokens, List.getElem?_append_right (Nat.le_refl _), Nat.sub_self] at here
      cases here
      exact token.2
  | phrase p rest ih =>
      have behind := ih (front ++ p.tokens) (index + 1)
      rw [List.append_assoc, List.length_append] at behind
      exact .statement (alone_phrase p) behind
  | unended c =>
      have behind : Accounts (front.length + c.tokens.length) (index + 1)
          (front ++ (c.tokens ++ [])) [] := .nil (by simp)
      have whole := Accounts.statement (alone_clause c) behind
      rwa [List.append_nil] at whole

/-- The statements of a program and the tokens that it was read from. -/
structure AccountsFor (p : Program) (ts : List Token) : Prop where
  ids : p.entries.map (·.id.index) = List.range p.entries.length
  inside : ∀ e ∈ p.entries, 0 < e.span.length ∧ e.span.stop ≤ ts.length
  apart : p.entries.Pairwise fun e e' => e.span.stop ≤ e'.span.start
  lead : ∀ e ∈ p.entries, ∃ t, ts[e.span.start]? = some t ∧ t.kind = .word
  words : ∀ i t, ts[i]? = some t → t.kind = .word → ∃! e, e ∈ p.entries ∧ e.span.Contains i
  between : ∀ i t, ts[i]? = some t → (∀ e ∈ p.entries, ¬ e.span.Contains i) → t.kind ≠ .word
  alone : ∀ e ∈ p.entries, ofTokens (e.span.slice ts) =
    .ok ⟨⟨0, e.span.length⟩, [⟨⟨0⟩, ⟨0, e.span.length⟩, e.statement⟩]⟩

/-- The spans of a program account for every word of the tokens, once each, and every statement is
the one that its span spells. -/
theorem spans_account_for_words {ts : List Token} {p : Program} (read : ofTokens ts = .ok p) :
    p.AccountsFor ts := by
  obtain ⟨es, entries, rfl⟩ := ofTokens_eq_ok.1 read
  obtain ⟨d, rfl⟩ := exists_derivation entries
  cases (entriesFrom_tokens d).symm.trans entries
  have accounts := accounts_entries d [] 0
  constructor
  case ids => exact accounts.ids.trans List.range_eq_range'.symm
  case inside => exact fun e mem => (accounts.inside e mem).2
  case apart => exact accounts.apart
  case lead => exact fun e mem => accounts.lead mem
  case words =>
    intro i t here word
    obtain ⟨e, mem, contains⟩ := accounts.words i t (Nat.zero_le i) here word
    exact ⟨e, ⟨mem, contains⟩, fun e' other => accounts.unique other.1 mem other.2 contains⟩
  case between =>
    intro i t here outside word
    obtain ⟨e, mem, contains⟩ := accounts.words i t (Nat.zero_le i) here word
    exact outside e mem contains
  case alone =>
    intro e mem
    have alone := (accounts.alone e mem).read
    rwa [accounts.length_slice mem] at alone

/-- A message and a gap, with a blank line before and a semicolon between them. -/
theorem spans_account_for_words_between :
    let gap : List Token := [⟨.word, "space"⟩, ⟨.space, " "⟩, ⟨.word, "2"⟩]
    let ts : List Token := ⟨.newline, "\n"⟩ :: ⟨.word, "a"⟩ :: ⟨.arrow, "->"⟩ :: ⟨.word, "b"⟩ ::
      ⟨.semicolon, ";"⟩ :: ⟨.semicolon, ";"⟩ :: gap
    let p : Program := ⟨⟨0, 9⟩, [⟨⟨0⟩, ⟨1, 4⟩, .message "a" "b" ""⟩, ⟨⟨1⟩, ⟨6, 3⟩, .space 2⟩]⟩
    ofTokens ts = .ok p ∧ p.AccountsFor ts := by
  intro gap ts p
  have behind : entriesFrom 6 1 gap = .ok [⟨⟨1⟩, ⟨6, 3⟩, .space 2⟩] := entriesFrom_of_all rfl rfl
  have message : entriesFrom 1 0 (⟨.word, "a"⟩ :: ⟨.arrow, "->"⟩ :: ⟨.word, "b"⟩ ::
      ⟨.semicolon, ";"⟩ :: ⟨.semicolon, ";"⟩ :: gap) =
        (entriesFrom 5 1 (⟨.semicolon, ";"⟩ :: gap)).map
          (⟨⟨0⟩, ⟨1, 4⟩, .message "a" "b" ""⟩ :: ·) :=
    entriesFrom_of_ok (c := ⟨4, ⟨.semicolon, ";"⟩ :: gap⟩) rfl (by decide +kernel)
  have read : ofTokens ts = .ok p := by
    refine ofTokens_eq_ok.2 ⟨p.entries, ?_, rfl⟩
    rw [entriesFrom_loose (by decide), message, entriesFrom_loose (by decide), behind]
    rfl
  exact ⟨read, spans_account_for_words read⟩

end Program

end SequenceChart
