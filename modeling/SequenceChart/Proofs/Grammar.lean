import Mathlib.Data.Nat.Digits.Defs
import SequenceChart.Program.Reader

/-!
The grammar of programs. A derivation holds every token that it derives, the blanks included, so
there are no derivations but the well-formed ones. A statement ends at a token or together with the
list; only the last one can do the latter. No token list has two derivations.
-/

namespace SequenceChart

namespace Grammar

abbrev Blanks := { ts : List Token // ∀ t ∈ ts, t.kind = .space }

/-- Tokens of a text. It goes on to the end of the statement, whatever the tokens are. -/
abbrev Run := { ts : List Token // ∀ t ∈ ts, t.kind.endsStatement = false }

abbrev Ending := { t : Token // t.kind.endsStatement = true }

abbrev Loose := { t : Token // t.kind ≠ .word }

/-- A token of the given kind with blanks before it. -/
structure Item (kind : Token.Kind) (accepts : String → Prop) where
  blanks : Blanks
  text : String
  accepted : accepts text

abbrev NameItem := Item .word Name.Valid

/-- A token of which only the kind matters. -/
abbrev Mark (kind : Token.Kind) := Item kind fun _ => True

/-- The number that a run of digits stands for, its last digit counting ones. -/
def decimal (digits : String) : Nat :=
  Nat.ofDigits 10 (digits.toList.reverse.map fun c => c.toNat - '0'.toNat)

structure IsGap (text : String) : Prop where
  ne_empty : text ≠ ""
  isDigit : ∀ c ∈ text.toList, c.isDigit = true
  lt : decimal text < UInt32.size

/-- The end of a message, from behind the receiver on. -/
inductive Label where
  | absent (blanks : Blanks)
  | present (colon : Mark .colon) (body : Run)

/-- A statement up to its end. -/
inductive Clause where
  | declaration (first : NameItem) (others : List NameItem) (blanks : Blanks)
  | message (sender : { s : String // Name.Valid s }) (arrow : Mark .arrow) (receiver : NameItem)
      (label : Label)
  | note (side : Side) (of : Item .word (· = "of")) (participant : NameItem) (colon : Mark .colon)
      (body : Run)

/-- A statement that is complete, whatever follows. -/
inductive Phrase where
  | ended (clause : Clause) (ending : Ending)
  | gap (amount : Item .word IsGap)

inductive Derivation where
  | done
  | loose (token : Loose) (rest : Derivation)
  | phrase (phrase : Phrase) (rest : Derivation)
  /-- The list ends with the last statement. -/
  | unended (clause : Clause)

/-! What is derived, and what it means. -/

section

variable {kind : Token.Kind} {accepts : String → Prop}

def Item.token (i : Item kind accepts) : Token := ⟨kind, i.text⟩

def Item.tokens (i : Item kind accepts) : List Token := i.blanks.1 ++ [i.token]

end

namespace Label

def tokens : Label → List Token
  | absent blanks => blanks.1
  | present colon body => colon.tokens ++ body.1

def text : Label → String
  | absent _ => ""
  | present _ body => Body.ofTokens body.1

end Label

namespace Clause

/-- The word that a clause starts with. -/
def lead : Clause → String
  | declaration .. => "object"
  | message sender .. => sender.1
  | note side .. => Reader.sideWord side

/-- The tokens behind the leading word. -/
def tail : Clause → List Token
  | declaration first others blanks =>
    first.tokens ++ (others.flatMap Item.tokens ++ blanks.1)
  | message _ arrow receiver label => arrow.tokens ++ (receiver.tokens ++ label.tokens)
  | note _ of participant colon body =>
    of.tokens ++ (participant.tokens ++ (colon.tokens ++ body.1))

def tokens (c : Clause) : List Token := ⟨.word, c.lead⟩ :: c.tail

def statement : Clause → Statement
  | declaration first others _ => .declare (first.text :: others.map Item.text)
  | message sender _ receiver label => .message sender.1 receiver.text label.text
  | note side _ participant _ body => .note side participant.text (Body.ofTokens body.1)

end Clause

namespace Phrase

def lead : Phrase → String
  | ended clause _ => clause.lead
  | gap _ => "space"

def tail : Phrase → List Token
  | ended clause ending => clause.tail ++ [ending.1]
  | gap amount => amount.tokens

def tokens (p : Phrase) : List Token := ⟨.word, p.lead⟩ :: p.tail

def statement : Phrase → Statement
  | ended clause _ => clause.statement
  | gap amount => .space (decimal amount.text)

end Phrase

namespace Derivation

def tokens : Derivation → List Token
  | done => []
  | loose token rest => token.1 :: rest.tokens
  | phrase p rest => p.tokens ++ rest.tokens
  | unended clause => clause.tokens

/-- The entries of a derivation whose first token has position `start`, where `index` statements
come before. -/
def entries (start index : Nat) : Derivation → List Entry
  | done => []
  | loose _ rest => rest.entries (start + 1) index
  | phrase p rest =>
    ⟨⟨index⟩, ⟨start, p.tokens.length⟩, p.statement⟩ ::
      rest.entries (start + p.tokens.length) (index + 1)
  | unended clause => [⟨⟨index⟩, ⟨start, clause.tokens.length⟩, clause.statement⟩]

def program (d : Derivation) : Program := ⟨⟨0, d.tokens.length⟩, d.entries 0 0⟩

end Derivation

/-! Derivations are determined by their tokens. -/

/-- Two lists are cut in the same way by the first token that fails a test. -/
theorem append_inj_of_stop {test : Token → Prop} {xs ys rest rest' : List Token}
    (hx : ∀ t ∈ xs, test t) (hy : ∀ t ∈ ys, test t) (stop : ∀ t ∈ rest.head?, ¬ test t)
    (stop' : ∀ t ∈ rest'.head?, ¬ test t) (same : xs ++ rest = ys ++ rest') :
    xs = ys ∧ rest = rest' := by
  induction xs generalizing ys with
  | nil =>
      cases ys with
      | nil => exact ⟨rfl, same⟩
      | cons y ys =>
          cases same
          exact (stop y rfl (hy y List.mem_cons_self)).elim
  | cons x xs ih =>
      cases ys with
      | nil =>
          cases same
          exact (stop' x rfl (hx x List.mem_cons_self)).elim
      | cons y ys =>
          obtain ⟨rfl, tails⟩ := List.cons.inj same
          obtain ⟨rfl, rfl⟩ := ih (fun t mem => hx t (List.mem_cons_of_mem x mem))
            (fun t mem => hy t (List.mem_cons_of_mem x mem)) tails
          exact ⟨rfl, rfl⟩

namespace Item

variable {kind kind' : Token.Kind} {accepts accepts' : String → Prop} {rest rest' : List Token}

theorem tokens_append (i : Item kind accepts) (rest : List Token) :
    i.tokens ++ rest = i.blanks.1 ++ i.token :: rest := by
  rw [tokens, List.append_assoc, List.singleton_append]

theorem length_tokens (i : Item kind accepts) : i.tokens.length = i.blanks.1.length + 1 :=
  List.length_append

theorem token_mem (i : Item kind accepts) : i.token ∈ i.tokens :=
  List.mem_append_right _ List.mem_cons_self

/-- An item at the front of a list is found by passing over the blanks. -/
theorem append_inj (i : Item kind accepts) (j : Item kind' accepts') (solid : kind ≠ .space)
    (solid' : kind' ≠ .space) (same : i.tokens ++ rest = j.tokens ++ rest') :
    i.blanks = j.blanks ∧ i.token = j.token ∧ rest = rest' := by
  rw [tokens_append, tokens_append] at same
  have cut := append_inj_of_stop i.blanks.2 j.blanks.2 (by rintro t ⟨⟩; exact solid)
    (by rintro t ⟨⟩; exact solid') same
  obtain ⟨tokens, rests⟩ := List.cons.inj cut.2
  exact ⟨Subtype.ext cut.1, tokens, rests⟩

theorem eq_of_append (i j : Item kind accepts) (solid : kind ≠ .space)
    (same : i.tokens ++ rest = j.tokens ++ rest') : i = j ∧ rest = rest' := by
  obtain ⟨blanks, token, rests⟩ := append_inj i j solid solid same
  cases i
  cases j
  cases blanks
  cases token
  exact ⟨rfl, rests⟩

end Item

theorem names_inj {xs ys : List NameItem} {blanks blanks' : Blanks}
    (same : xs.flatMap Item.tokens ++ blanks.1 = ys.flatMap Item.tokens ++ blanks'.1) :
    xs = ys ∧ blanks = blanks' := by
  induction xs generalizing ys with
  | nil =>
      cases ys with
      | nil => exact ⟨rfl, Subtype.ext same⟩
      | cons y ys =>
          have mem : y.token ∈ blanks.1 := by
            rw [List.flatMap_nil, List.nil_append] at same
            simp [same, y.token_mem]
          exact nomatch blanks.2 _ mem
  | cons x xs ih =>
      cases ys with
      | nil =>
          have mem : x.token ∈ blanks'.1 := by
            rw [List.flatMap_nil, List.nil_append] at same
            simp [← same, x.token_mem]
          exact nomatch blanks'.2 _ mem
      | cons y ys =>
          simp only [List.flatMap_cons, List.append_assoc] at same
          obtain ⟨rfl, tails⟩ := Item.eq_of_append x y nofun same
          obtain ⟨rfl, rfl⟩ := ih tails
          exact ⟨rfl, rfl⟩

theorem Label.tokens_inj {label label' : Label} (same : label.tokens = label'.tokens) :
    label = label' := by
  cases label with
  | absent blanks =>
      cases label' with
      | absent blanks' => exact congrArg Label.absent (Subtype.ext same)
      | present colon body =>
          have mem : colon.token ∈ blanks.1 := by
            change blanks.1 = colon.tokens ++ body.1 at same
            simp [same, colon.token_mem]
          exact nomatch blanks.2 _ mem
  | present colon body =>
      cases label' with
      | absent blanks =>
          have mem : colon.token ∈ blanks.1 := by
            change colon.tokens ++ body.1 = blanks.1 at same
            simp [← same, colon.token_mem]
          exact nomatch blanks.2 _ mem
      | present colon' body' =>
          obtain ⟨rfl, bodies⟩ := Item.eq_of_append colon colon' nofun same
          rw [Subtype.ext bodies]

theorem sideWord_ne_object (side : Side) : Reader.sideWord side ≠ "object" := by
  cases side <;> decide

theorem sideWord_inj {side side' : Side} (same : Reader.sideWord side = Reader.sideWord side') :
    side = side' := by
  cases side <;> cases side' <;> first | rfl | exact absurd same (by decide)

namespace Clause

theorem lead_ne_space (c : Clause) : c.lead ≠ "space" := by
  cases c with
  | declaration _ _ _ => exact show "object" ≠ "space" by decide
  | message sender _ _ _ =>
      rintro same
      have reserved : sender.1 ∈ Name.reservedWords := by
        rw [show sender.1 = "space" from same]
        decide
      exact sender.2.not_reserved reserved
  | note side _ _ _ _ =>
      cases side with
      | left => exact show "left" ≠ "space" by decide
      | right => exact show "right" ≠ "space" by decide

/-- The leading word and the token behind it tell the kinds of clauses apart. -/
theorem tokens_inj {c c' : Clause} (same : c.tokens = c'.tokens) : c = c' := by
  obtain ⟨leads, tails⟩ := List.cons.inj same
  have leads : c.lead = c'.lead := congrArg Token.text leads
  cases c with
  | declaration first others blanks =>
      cases c' with
      | declaration first' others' blanks' =>
          obtain ⟨rfl, rests⟩ := Item.eq_of_append first first' nofun tails
          obtain ⟨rfl, rfl⟩ := names_inj rests
          rfl
      | message _ arrow _ _ =>
          exact nomatch congrArg Token.kind (Item.append_inj first arrow nofun nofun tails).2.1
      | note side _ _ _ _ => exact (sideWord_ne_object side leads.symm).elim
  | message sender arrow receiver label =>
      cases c' with
      | declaration first _ _ =>
          exact nomatch congrArg Token.kind (Item.append_inj arrow first nofun nofun tails).2.1
      | message sender' arrow' receiver' label' =>
          obtain rfl : sender = sender' := Subtype.ext leads
          obtain ⟨rfl, rests⟩ := Item.eq_of_append arrow arrow' nofun tails
          obtain ⟨rfl, labels⟩ := Item.eq_of_append receiver receiver' nofun rests
          rw [Label.tokens_inj labels]
      | note _ of _ _ _ =>
          exact nomatch congrArg Token.kind (Item.append_inj arrow of nofun nofun tails).2.1
  | note side of participant colon body =>
      cases c' with
      | declaration _ _ _ => exact (sideWord_ne_object side leads).elim
      | message _ arrow _ _ =>
          exact nomatch congrArg Token.kind (Item.append_inj of arrow nofun nofun tails).2.1
      | note side' of' participant' colon' body' =>
          obtain rfl : side = side' := sideWord_inj leads
          obtain ⟨rfl, names⟩ := Item.eq_of_append of of' nofun tails
          obtain ⟨rfl, colons⟩ := Item.eq_of_append participant participant' nofun names
          obtain ⟨rfl, bodies⟩ := Item.eq_of_append colon colon' nofun colons
          rw [Subtype.ext bodies]

end Clause

/-! Tokens that end a statement stand only behind clauses. -/

theorem Item.runs_on {kind : Token.Kind} {accepts : String → Prop} (i : Item kind accepts)
    (inside : kind.endsStatement = false) : ∀ t ∈ i.tokens, t.kind.endsStatement = false := by
  intro t mem
  rcases List.mem_append.1 mem with blank | mem
  · rw [i.blanks.2 t blank]
    rfl
  · rw [List.mem_singleton.1 mem]
    exact inside

theorem Label.runs_on (label : Label) : ∀ t ∈ label.tokens, t.kind.endsStatement = false := by
  cases label with
  | absent blanks =>
      intro t mem
      rw [blanks.2 t mem]
      rfl
  | present colon body =>
      exact List.forall_mem_append.2 ⟨colon.runs_on rfl, body.2⟩

theorem Clause.runs_on (c : Clause) : ∀ t ∈ c.tokens, t.kind.endsStatement = false := by
  refine List.forall_mem_cons.2 ⟨rfl, ?_⟩
  cases c with
  | declaration first others blanks =>
      refine List.forall_mem_append.2 ⟨first.runs_on rfl, List.forall_mem_append.2 ⟨?_, ?_⟩⟩
      · intro t mem
        obtain ⟨i, _, mem⟩ := List.mem_flatMap.1 mem
        exact i.runs_on rfl t mem
      · intro t mem
        rw [blanks.2 t mem]
        rfl
  | message _ arrow receiver label =>
      exact List.forall_mem_append.2 ⟨arrow.runs_on rfl,
        List.forall_mem_append.2 ⟨receiver.runs_on rfl, label.runs_on⟩⟩
  | note _ of participant colon body =>
      exact List.forall_mem_append.2 ⟨of.runs_on rfl, List.forall_mem_append.2
        ⟨participant.runs_on rfl, List.forall_mem_append.2 ⟨colon.runs_on rfl, body.2⟩⟩⟩

namespace Phrase

theorem tokens_ended (clause : Clause) (ending : Ending) :
    (ended clause ending).tokens = clause.tokens ++ [ending.1] :=
  rfl

/-- A phrase at the front of a list is found without looking at what follows. -/
theorem append_inj {p p' : Phrase} {rest rest' : List Token}
    (same : p.tokens ++ rest = p'.tokens ++ rest') : p = p' ∧ rest = rest' := by
  have leads : p.lead = p'.lead := congrArg Token.text (List.cons.inj same).1
  cases p with
  | ended clause ending =>
      cases p' with
      | ended clause' ending' =>
          simp only [tokens_ended, List.append_assoc, List.singleton_append] at same
          obtain ⟨clauses, rests⟩ := append_inj_of_stop clause.runs_on clause'.runs_on
            (by rintro t ⟨⟩; simp [ending.2]) (by rintro t ⟨⟩; simp [ending'.2]) same
          obtain ⟨endings, rests⟩ := List.cons.inj rests
          rw [Clause.tokens_inj clauses, Subtype.ext endings]
          exact ⟨rfl, rests⟩
      | gap _ => exact (clause.lead_ne_space leads).elim
  | gap amount =>
      cases p' with
      | ended clause' _ => exact (clause'.lead_ne_space leads.symm).elim
      | gap amount' =>
          obtain ⟨rfl, rests⟩ := Item.eq_of_append amount amount' nofun (List.cons.inj same).2
          exact ⟨rfl, rests⟩

theorem append_ne_clause (p : Phrase) (rest : List Token) (c : Clause) :
    p.tokens ++ rest ≠ c.tokens := by
  intro same
  cases p with
  | ended clause ending =>
      have mem : ending.1 ∈ c.tokens := by simp [← same, tokens_ended]
      have ends := ending.2
      rw [c.runs_on _ mem] at ends
      contradiction
  | gap _ => exact c.lead_ne_space (congrArg Token.text (List.cons.inj same).1).symm

end Phrase

theorem Derivation.tokens_inj {d d' : Derivation} (same : d.tokens = d'.tokens) : d = d' := by
  induction d generalizing d' with
  | done =>
      cases d' with
      | done => rfl
      | loose _ _ | phrase _ _ | unended _ => contradiction
  | loose token rest ih =>
      cases d' with
      | done => contradiction
      | loose token' rest' =>
          obtain ⟨tokens, rests⟩ := List.cons.inj same
          rw [Subtype.ext tokens, ih rests]
      | phrase _ _ | unended _ =>
          exact (token.2 (congrArg Token.kind (List.cons.inj same).1)).elim
  | phrase p rest ih =>
      cases d' with
      | done => contradiction
      | loose token _ => exact (token.2 (congrArg Token.kind (List.cons.inj same).1).symm).elim
      | phrase p' rest' =>
          obtain ⟨rfl, rests⟩ := Phrase.append_inj same
          rw [ih rests]
      | unended clause => exact (p.append_ne_clause rest.tokens clause same).elim
  | unended clause =>
      cases d' with
      | done => contradiction
      | loose token _ => exact (token.2 (congrArg Token.kind (List.cons.inj same).1).symm).elim
      | phrase p rest => exact (p.append_ne_clause rest.tokens clause same.symm).elim
      | unended clause' => rw [Clause.tokens_inj same]

/-- What holds of every gap and of the clauses in a derivation holds of all its statements. -/
theorem Derivation.forall_entries {P : Statement → Prop} (d : Derivation)
    (gap : ∀ amount : Item .word IsGap, P (.space (decimal amount.text)))
    (clause : ∀ c : Clause, c.tokens <:+: d.tokens → P c.statement) (start index : Nat) :
    ∀ e ∈ d.entries start index, P e.statement := by
  induction d generalizing start index with
  | done => exact nofun
  | loose token rest ih =>
      exact ih (fun c part => clause c (List.infix_cons part)) (start + 1) index
  | phrase p rest ih =>
      have others := ih fun c part => clause c (part.trans (List.suffix_append _ _).isInfix)
      refine List.forall_mem_cons.2 ⟨?_, others _ _⟩
      cases p with
      | ended c ending =>
          have front : c.tokens <+: (Phrase.ended c ending).tokens := List.prefix_append _ _
          exact clause c (front.trans (List.prefix_append _ _)).isInfix
      | gap amount => exact gap amount
  | unended c => exact List.forall_mem_singleton.2 (clause c List.infix_rfl)

end Grammar

end SequenceChart
