import SequenceChart.Proofs.Derivation

/-!
Errors point at the exact token that cannot be read. What comes before it can be completed to a
program, and what comes behind it does not matter. Each reader of a clause has this property, and
readers one after the other keep it as long as the first one settles what it takes without looking
further.
-/

namespace SequenceChart

open Grammar

/-- How far into the statement the refused token stands. -/
def Refusal.offset : Refusal → Nat
  | .noMatch offset | .unsupported offset _ | .invalidGap offset _ => offset

namespace Reader

variable {α β : Type} {n : Nat} {r : Refusal} {t : Token} {ts rest : List Token}

/-- The reader takes exactly these tokens, whatever follows them. -/
def Reads (p : Reader α) (n : Nat) (ts : List Token) : Prop :=
  ∃ a, ∀ rest, p ⟨n, ts ++ rest⟩ = .ok (a, ⟨n + ts.length, rest⟩)

/-- The reader settles what it takes by these tokens alone. -/
def Steady (p : Reader α) : Prop :=
  ∀ ⦃n ts a⦄ ⦃c : Cursor⦄, p ⟨n, ts⟩ = .ok (a, c) → ∃ taken, ts = taken ++ c.rest ∧
    c.taken = n + taken.length ∧ ∀ rest, p ⟨n, taken ++ rest⟩ = .ok (a, ⟨n + taken.length, rest⟩)

/-- The reader refuses a list that starts with `taken` and goes on with `rest`, and the first token
of `rest` alone is to blame: it is refused in front of any other tokens, and without it the list can
be completed. -/
structure Blames (p : Reader α) (n : Nat) (taken rest : List Token) (r : Refusal) : Prop where
  refused : ∀ t ∈ rest.head?, ∀ others, p ⟨n, taken ++ t :: others⟩ = .error r
  viable : ∃ more, Reads p n (taken ++ more)

/-- The reader can take something, and its only refusals are of the tokens that are to blame. -/
structure Sharp (p : Reader α) : Prop where
  viable : ∀ n, ∃ ts, Reads p n ts
  blames : ∀ {n ts r}, p ⟨n, ts⟩ = .error r → ∃ taken rest, ts = taken ++ rest ∧
    r = .noMatch (n + taken.length) ∧ Blames p n taken rest r

variable {p : Reader α} {q : α → Reader β} {a : α}

theorem steady_pure : Steady (pure a : Reader α) := by
  rintro n ts _ _ ⟨⟩
  exact ⟨[], rfl, rfl, fun rest => rfl⟩

theorem sharp_pure : Sharp (pure a : Reader α) where
  viable n := ⟨[], a, fun rest => rfl⟩
  blames refused := by contradiction

theorem steady_bind (first : Steady p) (second : ∀ a, Steady (q a)) : Steady (p >>= q) := by
  intro n ts b c read
  obtain ⟨a, ⟨_, rest⟩, read_first, read_second⟩ := bind_eq_ok.1 read
  obtain ⟨taken, rfl, rfl, again⟩ := first read_first
  obtain ⟨taken', rfl, count, again'⟩ := second a read_second
  refine ⟨taken ++ taken', by rw [List.append_assoc], ?_, ?_⟩
  · rw [count, List.length_append, Nat.add_assoc]
  · intro rest
    rw [List.append_assoc, bind_of_ok (again _), again', List.length_append, Nat.add_assoc]

theorem reads_bind {ts' : List Token}
    (first : ∀ rest, p ⟨n, ts ++ rest⟩ = .ok (a, ⟨n + ts.length, rest⟩))
    (second : Reads (q a) (n + ts.length) ts') : Reads (p >>= q) n (ts ++ ts') := by
  obtain ⟨b, second⟩ := second
  refine ⟨b, fun rest => ?_⟩
  rw [List.append_assoc, bind_of_ok (first _), second, List.length_append, Nat.add_assoc]

theorem Blames.bind_first {taken : List Token} (blame : Blames p n taken rest r)
    (second : ∀ a, Sharp (q a)) : Blames (p >>= q) n taken rest r where
  refused t mem others := bind_of_error (blame.refused t mem others)
  viable := by
    obtain ⟨more, a, read⟩ := blame.viable
    obtain ⟨ts, read'⟩ := (second a).viable (n + (taken ++ more).length)
    refine ⟨more ++ ts, ?_⟩
    rw [← List.append_assoc]
    exact reads_bind read read'

theorem Blames.bind_second {taken taken' : List Token}
    (again : ∀ rest, p ⟨n, taken ++ rest⟩ = .ok (a, ⟨n + taken.length, rest⟩))
    (blame : Blames (q a) (n + taken.length) taken' rest r) :
    Blames (p >>= q) n (taken ++ taken') rest r where
  refused t mem others := by
    rw [List.append_assoc, bind_of_ok (again _)]
    exact blame.refused t mem others
  viable := by
    obtain ⟨more, read⟩ := blame.viable
    refine ⟨more, ?_⟩
    rw [List.append_assoc]
    exact reads_bind again read

theorem sharp_bind (steady : Steady p) (first : Sharp p) (second : ∀ a, Sharp (q a)) :
    Sharp (p >>= q) where
  viable n := by
    obtain ⟨ts, a, read⟩ := first.viable n
    obtain ⟨ts', read'⟩ := (second a).viable (n + ts.length)
    exact ⟨ts ++ ts', reads_bind read read'⟩
  blames := by
    intro n ts r refused
    rcases bind_eq_error.1 refused with at_first | ⟨a, ⟨_, rest⟩, read, at_second⟩
    · obtain ⟨taken, rest, rfl, offset, blame⟩ := first.blames at_first
      exact ⟨taken, rest, rfl, offset, blame.bind_first second⟩
    · obtain ⟨taken, rfl, rfl, again⟩ := steady read
      obtain ⟨taken', rest, rfl, offset, blame⟩ := (second a).blames at_second
      refine ⟨taken ++ taken', rest, by rw [List.append_assoc], ?_, .bind_second again blame⟩
      rw [offset, List.length_append, Nat.add_assoc]

/-! Readers of one token. -/

section

variable {accepts : Token → Bool} {kind : Token.Kind} {P : String → Prop}

theorem steady_take (test : Recognises accepts kind P) : Steady (take accepts) := by
  intro n ts a c read
  obtain ⟨i, rfl, count, rfl⟩ := (take_eq_ok test).1 read
  exact ⟨i.tokens, rfl, count, fun _ => (take_eq_ok test).2 ⟨i, rfl, rfl, rfl⟩⟩

/-- `take` passes over blanks and then finds nothing or a token that fails the test. -/
theorem take_of_error (refused : take accepts ⟨n, ts⟩ = .error r) :
    ∃ (blanks : Blanks) (rest : List Token), ts = blanks.1 ++ rest ∧
      r = .noMatch (n + blanks.1.length) ∧
      ∀ t ∈ rest.head?, ∀ others, take accepts ⟨n, blanks.1 ++ t :: others⟩ = .error r := by
  obtain ⟨blanks, rest, solid, rfl⟩ := exists_blanks ts
  cases rest with
  | nil =>
      rw [List.append_nil, take_of_end blanks.2] at refused
      cases refused
      exact ⟨blanks, [], rfl, rfl, nofun⟩
  | cons t rest =>
      rw [take_of_token blanks.2 (solid t rfl)] at refused
      by_cases fits : accepts t = true
      · rw [if_pos fits] at refused
        contradiction
      · rw [if_neg fits] at refused
        cases refused
        refine ⟨blanks, t :: rest, rfl, rfl, ?_⟩
        rintro t ⟨⟩ others
        rw [take_of_token blanks.2 (solid t rfl), if_neg fits]

theorem reads_take (test : Recognises accepts kind P) (i : Item kind P) (n : Nat) :
    Reads (take accepts) n i.tokens :=
  ⟨i.token, fun _ => (take_eq_ok test).2 ⟨i, rfl, rfl, rfl⟩⟩

theorem sharp_take (test : Recognises accepts kind P) (text : String) (accepted : P text) :
    Sharp (take accepts) where
  viable n := ⟨_, reads_take test ⟨⟨[], nofun⟩, text, accepted⟩ n⟩
  blames refused := by
    obtain ⟨blanks, rest, rfl, offset, again⟩ := take_of_error refused
    exact ⟨blanks.1, rest, rfl, offset, again, [⟨kind, text⟩],
      reads_take test ⟨blanks, text, accepted⟩ _⟩

end

theorem valid_object : Name.Valid "object" := by decide

theorem steady_name : Steady name :=
  steady_bind (steady_take recognises_isName) fun _ => steady_pure

theorem sharp_name : Sharp name :=
  sharp_bind (steady_take recognises_isName) (sharp_take recognises_isName "object" valid_object)
    fun _ => sharp_pure

theorem steady_keyword (word : String) : Steady (keyword word) :=
  steady_bind (steady_take (recognises_isWord word)) fun _ => steady_pure

theorem sharp_keyword (word : String) : Sharp (keyword word) :=
  sharp_bind (steady_take (recognises_isWord word)) (sharp_take (recognises_isWord word) word rfl)
    fun _ => sharp_pure

theorem steady_symbol (kind : Token.Kind) (solid : kind ≠ .space) : Steady (symbol kind) :=
  steady_bind (steady_take (recognises_kind solid)) fun _ => steady_pure

theorem sharp_symbol (kind : Token.Kind) (solid : kind ≠ .space) : Sharp (symbol kind) :=
  sharp_bind (steady_take (recognises_kind solid)) (sharp_take (recognises_kind solid) "" trivial)
    fun _ => sharp_pure

/-! The ends of statements. -/

/-- A token that ends a statement. -/
def semicolon : Token := ⟨.semicolon, ";"⟩

theorem atEnd_semicolon (rest : List Token) : AtEnd (semicolon :: rest) := by
  rintro _ ⟨⟩
  rfl

/-- What the reader takes up to the end of a statement can be ended by a semicolon. -/
theorem reads_end {run : List Token} {f : α → β}
    (read : ∀ rest, AtEnd rest → p ⟨n, run ++ rest⟩ = .ok (a, ⟨n + run.length, rest⟩)) :
    Reads (p >>= fun a => endOfStatement >>= fun _ => pure (f a)) n (run ++ [semicolon]) := by
  refine ⟨f a, fun rest => ?_⟩
  rw [List.append_assoc]
  refine (bind_of_ok (read _ (atEnd_semicolon rest))).trans ?_
  refine (bind_of_ok (endOfStatement_of_atEnd (atEnd_semicolon rest))).trans ?_
  rw [List.length_append]
  rfl

theorem sharp_names_end (f : List String → β) :
    Sharp (names >>= fun others => endOfStatement >>= fun _ => pure (f others)) where
  viable n := ⟨[] ++ [semicolon], reads_end fun _ => names_append [] ⟨[], nofun⟩⟩
  blames := by
    intro n ts r refused
    obtain ⟨others, blanks, rest, rfl, bound⟩ := exists_names ts
    by_cases stop : AtEnd rest
    · -- Behind the last name the end of the statement is always found.
      rw [bind_of_ok (names_append others blanks stop),
        bind_of_ok (endOfStatement_of_atEnd stop)] at refused
      contradiction
    · cases rest with
      | nil => exact (stop nofun).elim
      | cons t rest =>
          obtain ⟨solid, other⟩ := bound t rfl
          have inside : t.kind.endsStatement = false := by
            by_contra ends
            exact stop (by rintro _ ⟨⟩; simpa using ends)
          rw [bind_of_error (names_of_token others blanks solid other inside)] at refused
          cases refused
          refine ⟨_, t :: rest, rfl, rfl, ?_, [semicolon],
            reads_end fun _ => names_append others blanks⟩
          rintro t ⟨⟩ _
          exact bind_of_error (names_of_token others blanks solid other inside)

theorem sharp_label_end (f : String → β) :
    Sharp (label >>= fun text => endOfStatement >>= fun _ => pure (f text)) where
  viable n := ⟨[] ++ [semicolon],
    reads_end fun _ => label_append (.absent ⟨[], nofun⟩)⟩
  blames := by
    intro n ts r refused
    rcases label_cases ts with ⟨l, rest, stop, rfl⟩ |
      ⟨blanks, t, rest, solid, other, inside, rfl⟩
    · rw [bind_of_ok (label_append l stop), bind_of_ok (endOfStatement_of_atEnd stop)] at refused
      contradiction
    · rw [label_end_of_token blanks.2 solid other inside] at refused
      cases refused
      refine ⟨blanks.1, t :: rest, rfl, rfl, ?_, [semicolon],
        reads_end fun _ => label_append (.absent blanks)⟩
      rintro t ⟨⟩ _
      exact label_end_of_token blanks.2 solid other inside

theorem sharp_body_end (f : String → β) :
    Sharp (body >>= fun text => endOfStatement >>= fun _ => pure (f text)) where
  viable n := ⟨[] ++ [semicolon], reads_end fun _ => body_append ⟨[], nofun⟩⟩
  blames := by
    intro n ts r refused
    obtain ⟨run, rest, stop, rfl⟩ := exists_body ts
    rw [bind_of_ok (body_append run stop), bind_of_ok (endOfStatement_of_atEnd stop)] at refused
    contradiction

/-! Readers of clauses. -/

theorem sharp_declaration : Sharp declaration :=
  sharp_bind (steady_keyword "object") (sharp_keyword "object") fun _ =>
  sharp_bind steady_name sharp_name fun first =>
  sharp_names_end fun others => Statement.declare (first :: others)

theorem sharp_message : Sharp message :=
  sharp_bind steady_name sharp_name fun sender =>
  sharp_bind (steady_symbol .arrow nofun) (sharp_symbol .arrow nofun) fun _ =>
  sharp_bind steady_name sharp_name fun receiver =>
  sharp_label_end fun text => Statement.message sender receiver text

theorem sharp_note (side : Side) : Sharp (note side) :=
  sharp_bind (steady_keyword (sideWord side)) (sharp_keyword (sideWord side)) fun _ =>
  sharp_bind (steady_keyword "of") (sharp_keyword "of") fun _ =>
  sharp_bind steady_name sharp_name fun participant =>
  sharp_bind (steady_symbol .colon nofun) (sharp_symbol .colon nofun) fun _ =>
  sharp_body_end fun text => Statement.note side participant text

/-! Two readers on the same tokens. -/

section

variable {p q : Reader α} {taken more : List Token}

/-- A list that agrees with a refused one further than the refusal is refused in the same way. -/
theorem Blames.refused_further (blame : Blames p n taken (more ++ rest) r) (first : t ∈ rest.head?)
    (others : List Token) : p ⟨n, taken ++ more ++ t :: others⟩ = .error r := by
  rw [List.append_assoc]
  cases more with
  | nil => exact blame.refused t first others
  | cons t' more => exact blame.refused t' rfl (more ++ t :: others)

theorem either_refused {k k' : Nat} {c : Cursor} (first : p c = .error (.noMatch k))
    (second : q c = .error (.noMatch k')) : either p q c = .error (.noMatch (max k k')) := by
  rw [either, first]
  simp only [second]

theorem Blames.either_first {k k' : Nat} (blame : Blames p n (taken ++ more) rest (.noMatch k))
    (blame' : Blames q n taken (more ++ rest) (.noMatch k')) :
    Blames (either p q) n (taken ++ more) rest (.noMatch (max k k')) where
  refused t mem others := either_refused (blame.refused t mem others)
    (blame'.refused_further mem others)
  viable := by
    obtain ⟨more', a, reads⟩ := blame.viable
    exact ⟨more', a, fun rest => either_of_ok (reads rest)⟩

theorem Blames.either_second {k k' : Nat}
    (blame : Blames p n taken (t :: more ++ rest) (.noMatch k))
    (blame' : Blames q n (taken ++ t :: more) rest (.noMatch k')) :
    Blames (either p q) n (taken ++ t :: more) rest (.noMatch (max k k')) where
  refused t' mem others := either_refused (blame.refused_further mem others)
    (blame'.refused t' mem others)
  viable := by
    obtain ⟨more', a, reads⟩ := blame'.viable
    refine ⟨more', a, fun rest => ?_⟩
    -- The first reader still refuses the token at which it stopped before.
    have refused := blame.refused t rfl (more ++ (more' ++ rest))
    have reads := reads rest
    simp only [List.append_assoc, List.cons_append] at reads ⊢
    exact either_of_noMatch refused reads

/-- The refusal that came further is as sharp as it was. -/
theorem sharp_either (first : Sharp p) (second : Sharp q) : Sharp (either p q) where
  viable n := by
    obtain ⟨ts, a, read⟩ := first.viable n
    exact ⟨ts, a, fun rest => either_of_ok (read rest)⟩
  blames := by
    intro n ts r refused
    cases read : p ⟨n, ts⟩ with
    | ok x =>
        rw [either_of_ok read] at refused
        contradiction
    | error r₁ =>
        obtain ⟨taken, rest, rfl, rfl, blame⟩ := first.blames read
        cases read' : q ⟨n, taken ++ rest⟩ with
        | ok x =>
            rw [either_of_noMatch read read'] at refused
            contradiction
        | error r₂ =>
            obtain ⟨taken', rest', same, rfl, blame'⟩ := second.blames read'
            cases (either_refused read read').symm.trans refused
            rcases List.append_eq_append_iff.1 same with ⟨more, rfl, rfl⟩ | ⟨more, rfl, rfl⟩
            · refine ⟨taken ++ more, rest', same, by simp, ?_⟩
              cases more with
              | nil => exact .either_first (by simpa using blame) (by simpa using blame')
              | cons t more => exact .either_second blame blame'
            · exact ⟨taken' ++ more, rest, rfl, by simp, .either_first blame blame'⟩

end

/-! Space statements. Their number may fit and be too large all the same. -/

theorem isGap_zero : IsGap "0" where
  ne_empty := by decide
  isDigit c mem := by
    obtain rfl : c = '0' := by simpa using mem
    rfl
  lt := by decide

theorem gap_of_large (blanks : Blanks) (fits : isDigits t = true)
    (large : gap? t.text.toList = none) (rest : List Token) :
    gap ⟨n, blanks.1 ++ t :: rest⟩ = .error (.invalidGap (n + blanks.1.length) t.text) := by
  have solid : t.kind ≠ .space := by simp [((recognises_isDigits.fits t).1 fits).1]
  refine (bind_of_ok ((take_of_token blanks.2 solid).trans (if_pos fits))).trans ?_
  simp only [large]
  rfl

theorem reads_gap (blanks : Blanks) (n : Nat) :
    Reads gap n (blanks.1 ++ [⟨.word, "0"⟩]) :=
  ⟨decimal "0", fun _ => gap_eq_ok.2 ⟨⟨blanks, "0", isGap_zero⟩, rfl, rfl, rfl⟩⟩

theorem gap_blames (refused : gap ⟨n, ts⟩ = .error r) : ∃ taken rest, ts = taken ++ rest ∧
    r.offset = n + taken.length ∧ Blames gap n taken rest r := by
  rcases bind_eq_error.1 refused with at_take | ⟨t, ⟨_, rest⟩, read, at_value⟩
  · obtain ⟨blanks, rest, rfl, rfl, again⟩ := take_of_error at_take
    refine ⟨blanks.1, rest, rfl, rfl, ?_, _, reads_gap blanks n⟩
    intro t mem others
    exact bind_of_error (again t mem others)
  · obtain ⟨i, rfl, _, rfl⟩ := (take_eq_ok recognises_isDigits).1 read
    cases value : gap? i.token.text.toList with
    | some v =>
        simp only [value] at at_value
        contradiction
    | none =>
        have fits : isDigits i.token = true :=
          (recognises_isDigits.fits i.token).2 ⟨rfl, i.accepted⟩
        have large := gap_of_large (n := n) i.blanks fits value
        rw [i.tokens_append, large rest] at refused
        cases refused
        refine ⟨i.blanks.1, i.token :: rest, i.tokens_append rest, rfl, ?_, _, reads_gap i.blanks n⟩
        rintro _ ⟨⟩ others
        exact large others

theorem space_blames (refused : space ⟨0, ⟨.word, "space"⟩ :: ts⟩ = .error r) :
    ∃ taken rest, ⟨.word, "space"⟩ :: ts = taken ++ rest ∧ r.offset = taken.length ∧
      Blames space 0 taken rest r := by
  have behind_lead := (bind_of_ok (keyword_lead "space" ts)).symm.trans refused
  rcases bind_eq_error.1 behind_lead with at_gap | ⟨_, _, _, at_pure⟩
  · obtain ⟨taken, rest, rfl, offset, blame⟩ := gap_blames at_gap
    refine ⟨⟨.word, "space"⟩ :: taken, rest, rfl, ?_, ?_⟩
    · rw [offset, List.length_cons, Nat.zero_add, Nat.add_comm]
    · change Blames space 0 ([⟨.word, "space"⟩] ++ taken) rest r
      exact .bind_second (keyword_lead "space") (blame.bind_first fun _ => sharp_pure)
  · contradiction

/-! Statements. -/

/-- What `Blames` says of a list, for statements with this leading word. A statement that is refused
at its leading word may be impossible to complete, as blocks are. -/
structure BlamesStatement (lead : String) (taken rest : List Token) (r : Refusal) : Prop where
  offset : r.offset = taken.length
  refused : ∀ t ∈ rest.head?, ∀ others, statement lead ⟨0, taken ++ t :: others⟩ = .error r
  viable : taken = [] ∨ ∃ more, Reads (statement lead) 0 (taken ++ more)

theorem Sharp.blamesStatement {lead : String} (sharp : Sharp (statement lead))
    (refused : statement lead ⟨0, ts⟩ = .error r) :
    ∃ taken rest, ts = taken ++ rest ∧ BlamesStatement lead taken rest r := by
  obtain ⟨taken, rest, same, rfl, blame⟩ := sharp.blames refused
  exact ⟨taken, rest, same, Nat.zero_add _, blame.refused, .inr blame.viable⟩

theorem statement_blames (word : t.kind = .word)
    (refused : statement t.text ⟨0, t :: ts⟩ = .error r) :
    ∃ taken rest, t :: ts = taken ++ rest ∧ BlamesStatement t.text taken rest r := by
  rcases statement_cases t.text with ⟨_, chosen⟩ | ⟨side, _, chosen⟩ | ⟨lead, chosen⟩ |
    ⟨_, chosen⟩ | chosen
  · apply Sharp.blamesStatement _ refused
    rw [chosen]
    exact sharp_either sharp_declaration sharp_message
  · apply Sharp.blamesStatement _ refused
    rw [chosen]
    exact sharp_either (sharp_note side) sharp_message
  · obtain ⟨_, text⟩ := t
    cases lead
    cases word
    obtain ⟨taken, rest, same, offset, blame⟩ := space_blames refused
    exact ⟨taken, rest, same, offset, blame.refused, .inr blame.viable⟩
  · rw [chosen] at refused
    cases refused
    refine ⟨[], t :: ts, rfl, rfl, ?_, .inl rfl⟩
    intro t' _ others
    rw [chosen]
    rfl
  · apply Sharp.blamesStatement _ refused
    rw [chosen]
    exact sharp_message

end Reader

namespace Program

open Reader

variable {start index : Nat} {t : Token} {ts rest : List Token} {r : Refusal} {e : ParseError}

/-- The error is of the first token of `rest`, which stands behind the tokens `taken`. -/
structure PointsAt (start : Nat) (taken rest : List Token) (e : ParseError) : Prop where
  index : e.tokenIndex = start + taken.length
  found : ∀ i found, e = .unexpected i found → found = (rest.head?.getD .endOfInput).display

theorem getElem?_length_append (taken rest : List Token) :
    (taken ++ rest)[taken.length]? = rest.head? := by
  rw [List.getElem?_append_right (Nat.le_refl _), Nat.sub_self, List.head?_eq_getElem?]

theorem toError_pointsAt {taken : List Token} (offset : r.offset = taken.length) :
    PointsAt start taken rest (r.toError start (taken ++ rest)) := by
  cases r with
  | noMatch _ =>
      cases offset
      refine ⟨rfl, ?_⟩
      rintro _ _ ⟨⟩
      rw [getElem?_length_append]
  | unsupported _ _ | invalidGap _ _ =>
      cases offset
      exact ⟨rfl, nofun⟩

theorem toError_congr {taken ts ts' : List Token} (offset : r.offset = taken.length)
    (same : ts.head? = ts'.head?) :
    r.toError start (taken ++ ts) = r.toError start (taken ++ ts') := by
  cases r with
  | noMatch _ =>
      cases offset
      rw [Refusal.toError, Refusal.toError, getElem?_length_append, getElem?_length_append, same]
  | unsupported _ _ | invalidGap _ _ => rfl

/-- What `Blames` says of a single reader, for programs. -/
structure BlamesIn (start index : Nat) (taken rest : List Token) (e : ParseError) : Prop where
  points : PointsAt start taken rest e
  refused : ∀ t ∈ rest.head?, ∀ others,
    entriesFrom start index (taken ++ t :: others) = .error e
  viable : ∃ more es, entriesFrom start index (taken ++ more) = .ok es

theorem refused_blames (word : t.kind = .word)
    (refused : statement t.text ⟨0, t :: ts⟩ = .error r) : ∃ taken rest, t :: ts = taken ++ rest ∧
      BlamesIn start index taken rest (r.toError start (t :: ts)) := by
  obtain ⟨taken, rest, same, blame⟩ := statement_blames word refused
  rw [same]
  refine ⟨taken, rest, rfl, toError_pointsAt blame.offset, ?_, ?_⟩
  · intro t' mem others
    have first : rest.head? = (t' :: others).head? := mem
    rw [toError_congr blame.offset first]
    cases taken with
    | nil =>
        cases same
        cases mem
        exact entriesFrom_of_error word (blame.refused t rfl others)
    | cons lead taken =>
        cases same
        exact entriesFrom_of_error word (blame.refused t' mem others)
  · cases taken with
    | nil => exact ⟨[], [], by rw [List.append_nil, entriesFrom]⟩
    | cons lead taken =>
        cases same
        obtain impossible | ⟨more, s, reads⟩ := blame.viable
        · contradiction
        · have read := reads []
          rw [List.append_nil, Nat.zero_add] at read
          exact ⟨more, _, entriesFrom_of_all word read⟩

theorem PointsAt.append {front taken : List Token}
    (points : PointsAt (start + front.length) taken rest e) :
    PointsAt start (front ++ taken) rest e where
  index := by rw [points.index, List.length_append, Nat.add_assoc]
  found := points.found

theorem BlamesIn.loose {taken : List Token} (loose : t.kind ≠ .word)
    (blame : BlamesIn (start + 1) index taken rest e) :
    BlamesIn start index (t :: taken) rest e where
  points := (show PointsAt (start + [t].length) taken rest e from blame.points).append
  refused t' mem others := by
    rw [List.cons_append, entriesFrom_loose loose]
    exact blame.refused t' mem others
  viable := by
    obtain ⟨more, es, read⟩ := blame.viable
    refine ⟨more, es, ?_⟩
    rw [List.cons_append, entriesFrom_loose loose]
    exact read

theorem BlamesIn.phrase {taken : List Token} (p : Phrase)
    (blame : BlamesIn (start + p.tokens.length) (index + 1) taken rest e) :
    BlamesIn start index (p.tokens ++ taken) rest e where
  points := blame.points.append
  refused t mem others := by
    rw [List.append_assoc, entriesFrom_phrase, blame.refused t mem others]
    rfl
  viable := by
    obtain ⟨more, es, read⟩ := blame.viable
    refine ⟨more, ⟨⟨index⟩, ⟨start, p.tokens.length⟩, p.statement⟩ :: es, ?_⟩
    rw [List.append_assoc, entriesFrom_phrase, read]
    rfl

theorem entriesFrom_blames (failed : entriesFrom start index ts = .error e) :
    ∃ taken rest, ts = taken ++ rest ∧ BlamesIn start index taken rest e := by
  induction ts using phrase_induction generalizing start index with
  | done =>
      rw [entriesFrom] at failed
      contradiction
  | loose t ts loose ih =>
      rw [entriesFrom_loose loose] at failed
      obtain ⟨taken, rest, rfl, blame⟩ := ih failed
      exact ⟨t :: taken, rest, rfl, blame.loose loose⟩
  | phrase p ts ih =>
      rw [entriesFrom_phrase] at failed
      cases others : entriesFrom (start + p.tokens.length) (index + 1) ts with
      | ok es =>
          rw [others] at failed
          contradiction
      | error e' =>
          rw [others] at failed
          cases failed
          obtain ⟨taken, rest, rfl, blame⟩ := ih others
          exact ⟨p.tokens ++ taken, rest, (List.append_assoc _ _ _).symm, blame.phrase p⟩
  | unended c =>
      rw [entriesFrom_unended] at failed
      contradiction
  | refused t ts r word refused =>
      rw [entriesFrom_of_error word refused] at failed
      cases failed
      exact refused_blames word refused

/-- The token that an error names is the first one that cannot be read. The error tells which token
it is; it does not depend on anything behind this token; and the tokens before it can be completed
to a program. -/
theorem error_is_first_failure {ts : List Token} {e : ParseError}
    (failed : ofTokens ts = .error e) :
    e.tokenIndex ≤ ts.length ∧
    (∀ i found, e = .unexpected i found →
      found = ((ts[e.tokenIndex]?).map Token.display).getD "<eof>") ∧
    (e.tokenIndex < ts.length → ∀ ts' : List Token,
      ts'.take (e.tokenIndex + 1) = ts.take (e.tokenIndex + 1) → ofTokens ts' = .error e) ∧
    ∃ more p, ofTokens (ts.take e.tokenIndex ++ more) = .ok p := by
  obtain ⟨taken, rest, rfl, blame⟩ := entriesFrom_blames (ofTokens_eq_error.1 failed)
  have index : e.tokenIndex = taken.length := by rw [blame.points.index, Nat.zero_add]
  rw [index, getElem?_length_append, List.take_left]
  refine ⟨by simp, ?_, ?_, ?_⟩
  · intro i found same
    rw [blame.points.found i found same]
    cases rest with
    | nil => rfl
    | cons t rest => rfl
  · intro inside ts' agrees
    cases rest with
    | nil => simp at inside
    | cons t rest =>
        rw [List.take_length_add_append] at agrees
        have same : ts' = taken ++ t :: ts'.drop (taken.length + 1) := by
          calc
            ts' = ts'.take (taken.length + 1) ++ ts'.drop (taken.length + 1) :=
              (List.take_append_drop _ _).symm
            _ = taken ++ t :: ts'.drop (taken.length + 1) := by
              rw [agrees, List.append_assoc]
              rfl
        rw [same]
        exact ofTokens_eq_error.2 (blame.refused t rfl _)
  · obtain ⟨more, es, read⟩ := blame.viable
    exact ⟨more, _, ofTokens_eq_ok.2 ⟨es, read, rfl⟩⟩

theorem error_is_first_failure_space : ∃ e,
    ofTokens [⟨.word, "space"⟩, ⟨.space, " "⟩, ⟨.arrow, "->"⟩] = .error e ∧ e.tokenIndex = 2 ∧
      (∀ rest, ofTokens ([⟨.word, "space"⟩, ⟨.space, " "⟩, ⟨.arrow, "->"⟩] ++ rest) = .error e) ∧
      ∃ more p, ofTokens ([⟨.word, "space"⟩, ⟨.space, " "⟩] ++ more) = .ok p := by
  have failed : ofTokens [⟨.word, "space"⟩, ⟨.space, " "⟩, ⟨.arrow, "->"⟩] =
      .error (.unexpected 2 "->") := by
    rw [ofTokens, entriesFrom]
    rfl
  obtain ⟨_, _, again, viable⟩ := error_is_first_failure failed
  exact ⟨_, failed, rfl, fun rest => again (by decide) _ rfl, viable⟩

end Program

end SequenceChart
