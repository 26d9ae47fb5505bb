import SequenceChart.Proofs.Grammar
import SequenceChart.Proofs.Trimming

/-!
What single readers take. A reader of one token takes an item of the grammar, and the readers of
texts and of the names of a declaration take all that the grammar lets stand there.
-/

namespace SequenceChart

open Grammar

/-! Blanks at the front of a text are trimmed away. -/

namespace Body

theorem splitMarkers_blank (cs : List Char) :
    splitMarkers (' ' :: cs) = (splitMarkers cs).modifyHead (' ' :: ·) :=
  rfl

theorem trim_blank (cs : List Char) :
    Text.trim (String.ofList (' ' :: cs)) = Text.trim (String.ofList cs) := by
  have white : Text.isWhiteSpace ' ' = true := by decide
  rw [Text.trim, Text.trim, String.toList_ofList, String.toList_ofList,
    List.dropWhile_cons_of_pos white]

theorem lines_blank {raw raw' : String} (blank : raw.toList = ' ' :: raw'.toList) :
    lines raw = lines raw' := by
  rw [lines, lines, blank, splitMarkers_blank]
  cases splitMarkers raw'.toList with
  | nil => rfl
  | cons first others => rw [List.modifyHead_cons, List.map_cons, List.map_cons, trim_blank]

theorem ofTokens_blank {t : Token} (blank : t.kind = .space) (ts : List Token) :
    ofTokens (t :: ts) = ofTokens ts := by
  rw [ofTokens, ofTokens, normalize, normalize, lines_blank]
  simp [tokenText, blank]

theorem ofTokens_append {blanks : List Token} (blank : ∀ t ∈ blanks, t.kind = .space)
    (ts : List Token) : ofTokens (blanks ++ ts) = ofTokens ts := by
  induction blanks with
  | nil => rfl
  | cons t blanks ih =>
      rw [List.cons_append, ofTokens_blank (blank t List.mem_cons_self),
        ih fun t mem => blank t (List.mem_cons_of_mem _ mem)]

end Body

namespace Reader

variable {α β : Type} {p : Reader α} {q : α → Reader β} {a : α} {b : β} {c c' : Cursor}
  {r : Refusal} {n : Nat} {ts rest : List Token} {t : Token}

/-! Readers one after the other. -/

theorem bind_of_ok (first : p c = .ok (a, c')) : (p >>= q) c = q a c' := by
  change (p c >>= fun (a, c) => q a c) = _
  rw [first]
  rfl

theorem bind_of_error (first : p c = .error r) : (p >>= q) c = .error r := by
  change (p c >>= fun (a, c) => q a c) = _
  rw [first]
  rfl

theorem bind_eq_ok :
    (p >>= q) c = .ok (b, c') ↔ ∃ a c₁, p c = .ok (a, c₁) ∧ q a c₁ = .ok (b, c') := by
  cases first : p c with
  | error r => simp [bind_of_error first]
  | ok x => simp [bind_of_ok (a := x.1) first, Prod.ext_iff]

theorem bind_eq_error :
    (p >>= q) c = .error r ↔ p c = .error r ∨ ∃ a c₁, p c = .ok (a, c₁) ∧ q a c₁ = .error r := by
  cases first : p c with
  | error r' => simp [bind_of_error first]
  | ok x => simp [bind_of_ok (a := x.1) first, Prod.ext_iff]

/-! Readers of one token. -/

theorem skipSpaces_append {blanks : List Token} (blank : ∀ t ∈ blanks, t.kind = .space)
    (stop : ∀ t ∈ rest.head?, t.kind ≠ .space) :
    skipSpaces ⟨n, blanks ++ rest⟩ = .ok ((), ⟨n + blanks.length, rest⟩) := by
  have run : (blanks ++ rest).takeWhile (·.kind == .space) = blanks :=
    (Text.run_of_stop _ (by simpa using blank) (by simpa using stop)).1
  change Except.ok ((), Cursor.advance _ _) = _
  rw [run, Cursor.advance, List.drop_left]

theorem skipSpaces_of_end {blanks : List Token} (blank : ∀ t ∈ blanks, t.kind = .space) :
    skipSpaces ⟨n, blanks⟩ = .ok ((), ⟨n + blanks.length, []⟩) := by
  have skipped : skipSpaces ⟨n, blanks ++ []⟩ = _ := skipSpaces_append blank nofun
  rwa [List.append_nil] at skipped

theorem skipSpaces_of_solid (solid : ∀ t ∈ rest.head?, t.kind ≠ .space) :
    skipSpaces ⟨n, rest⟩ = .ok ((), ⟨n, rest⟩) := by
  change skipSpaces ⟨n, [] ++ rest⟩ = _
  exact skipSpaces_append nofun solid

theorem take_of_end {accepts : Token → Bool} {blanks : List Token}
    (blank : ∀ t ∈ blanks, t.kind = .space) :
    take accepts ⟨n, blanks⟩ = .error (.noMatch (n + blanks.length)) :=
  bind_of_ok (skipSpaces_of_end blank)

theorem take_of_token {accepts : Token → Bool} {blanks : List Token}
    (blank : ∀ t ∈ blanks, t.kind = .space) (solid : t.kind ≠ .space) :
    take accepts ⟨n, blanks ++ t :: rest⟩ =
      if accepts t then .ok (t, ⟨n + (blanks.length + 1), rest⟩)
      else .error (.noMatch (n + blanks.length)) := by
  refine (bind_of_ok (skipSpaces_append blank (by rintro _ ⟨⟩; exact solid))).trans ?_
  change (if accepts t then _ else _ : Reader Token) _ = _
  by_cases fits : accepts t <;> simp only [fits, if_true] <;> rfl

/-- The blanks at the front of a list, as `take` passes over them. -/
theorem exists_blanks (ts : List Token) : ∃ (blanks : Blanks) (rest : List Token),
    (∀ t ∈ rest.head?, t.kind ≠ .space) ∧ ts = blanks.1 ++ rest := by
  obtain ⟨blanks, rest, blank, stop, rfl⟩ := Text.exists_run (·.kind == .space) ts
  exact ⟨⟨blanks, by simpa using blank⟩, rest, by simpa using stop, rfl⟩

/-- The test accepts the tokens of one kind with certain texts, and blanks are of another kind. -/
structure Recognises (accepts : Token → Bool) (kind : Token.Kind) (P : String → Prop) : Prop where
  solid : kind ≠ .space
  fits : ∀ t, accepts t = true ↔ t.kind = kind ∧ P t.text

section

variable {accepts : Token → Bool} {kind : Token.Kind} {P : String → Prop}

theorem take_eq_ok (test : Recognises accepts kind P) :
    take accepts ⟨n, ts⟩ = .ok (t, c) ↔ ∃ i : Item kind P, ts = i.tokens ++ c.rest ∧
      c.taken = n + i.tokens.length ∧ i.token = t := by
  constructor
  · intro read
    obtain ⟨blanks, rest, stop, rfl⟩ := exists_blanks ts
    cases rest with
    | nil =>
        rw [List.append_nil, take_of_end blanks.2] at read
        contradiction
    | cons t' rest =>
        rw [take_of_token blanks.2 (stop t' rfl)] at read
        by_cases fits : accepts t' = true
        · rw [if_pos fits] at read
          cases read
          obtain ⟨rfl, accepted⟩ := (test.fits t).1 fits
          exact ⟨⟨blanks, t.text, accepted⟩, by simp [Item.tokens, Item.token], by
            simp [Item.tokens], rfl⟩
        · rw [if_neg fits] at read
          contradiction
  · rintro ⟨i, rfl, taken, rfl⟩
    have fits : accepts i.token = true := (test.fits i.token).2 ⟨rfl, i.accepted⟩
    rw [Item.tokens, List.append_assoc, List.singleton_append,
      take_of_token i.blanks.2 (show i.token.kind ≠ .space from test.solid), if_pos fits]
    cases c
    cases taken
    simp [Item.tokens]

/-- Most readers of a token keep a part of it only. -/
theorem take_pure_eq_ok (test : Recognises accepts kind P) (f : Token → α) :
    (take accepts >>= fun t => pure (f t)) ⟨n, ts⟩ = .ok (a, c) ↔ ∃ i : Item kind P,
      ts = i.tokens ++ c.rest ∧ c.taken = n + i.tokens.length ∧ f i.token = a := by
  refine bind_eq_ok.trans ?_
  constructor
  · rintro ⟨t, c', read, ⟨⟩⟩
    obtain ⟨i, taken, count, rfl⟩ := (take_eq_ok test).1 read
    exact ⟨i, taken, count, rfl⟩
  · rintro ⟨i, taken, count, rfl⟩
    exact ⟨i.token, c, (take_eq_ok test).2 ⟨i, taken, count, rfl⟩, rfl⟩

end

theorem recognises_isName : Recognises isName .word Name.Valid where
  solid := nofun
  fits t := by simp [isName]

theorem recognises_isWord (word : String) : Recognises (·.isWord word) .word (· = word) where
  solid := nofun
  fits t := by simp [Token.isWord]

theorem recognises_kind {kind : Token.Kind} (solid : kind ≠ .space) :
    Recognises (·.kind == kind) kind fun _ => True where
  solid := solid
  fits t := by simp

theorem name_eq_ok {s : String} : name ⟨n, ts⟩ = .ok (s, c) ↔
    ∃ i : NameItem, ts = i.tokens ++ c.rest ∧ c.taken = n + i.tokens.length ∧ i.text = s :=
  take_pure_eq_ok recognises_isName Token.text

theorem keyword_eq_ok {word : String} : keyword word ⟨n, ts⟩ = .ok ((), c) ↔
    ∃ i : Item .word (· = word), ts = i.tokens ++ c.rest ∧ c.taken = n + i.tokens.length :=
  (take_pure_eq_ok (recognises_isWord word) fun _ => ()).trans (by simp only [and_true])

theorem symbol_eq_ok (kind : Token.Kind) (solid : kind ≠ .space) :
    symbol kind ⟨n, ts⟩ = .ok ((), c) ↔
      ∃ i : Mark kind, ts = i.tokens ++ c.rest ∧ c.taken = n + i.tokens.length :=
  (take_pure_eq_ok (recognises_kind solid) fun _ => ()).trans (by simp only [and_true])

/-! Gaps. -/

theorem foldl_eq_decimal (digits : String) :
    digits.toList.foldl (fun n d => 10 * n + (d.toNat - '0'.toNat)) 0 = decimal digits := by
  rw [decimal, Nat.ofDigits_eq_foldr, List.foldr_map, List.foldr_reverse]
  exact congrArg (fun f => List.foldl f 0 _) (funext₂ fun n d => Nat.add_comm _ _)

theorem gap?_eq_some {digits : String} {v : Nat} : gap? digits.toList = some v ↔
    digits ≠ "" ∧ decimal digits < UInt32.size ∧ decimal digits = v := by
  simp only [gap?, foldl_eq_decimal, String.toList_eq_nil_iff, maxGap, UInt32.size]
  by_cases empty : digits = ""
  · simp [empty]
  · by_cases large : 4294967295 < decimal digits
    · simp only [large, or_true, if_true]
      constructor
      · exact nofun
      · omega
    · simp only [empty, large, or_false, if_false, Option.some.injEq]
      constructor
      · intro same
        exact ⟨empty, by omega, same⟩
      · exact fun h => h.2.2

theorem recognises_isDigits :
    Recognises isDigits .word fun s => ∀ c ∈ s.toList, c.isDigit = true where
  solid := nofun
  fits t := by simp [isDigits]

theorem gap_eq_ok {v : Nat} : gap ⟨n, ts⟩ = .ok (v, c) ↔ ∃ i : Item .word IsGap,
    ts = i.tokens ++ c.rest ∧ c.taken = n + i.tokens.length ∧ decimal i.text = v := by
  refine bind_eq_ok.trans ?_
  constructor
  · rintro ⟨t, c', read, value⟩
    obtain ⟨i, taken, count, rfl⟩ := (take_eq_ok recognises_isDigits).1 read
    cases gap : gap? i.text.toList with
    | none =>
        simp only [Item.token, gap] at value
        contradiction
    | some v' =>
        simp only [Item.token, gap] at value
        cases value
        obtain ⟨ne_empty, lt, value⟩ := gap?_eq_some.1 gap
        exact ⟨⟨i.blanks, i.text, ne_empty, i.accepted, lt⟩, taken, count, value⟩
  · rintro ⟨i, taken, count, value⟩
    refine ⟨i.token, c, (take_eq_ok recognises_isDigits).2
      ⟨⟨i.blanks, i.text, i.accepted.isDigit⟩, taken, count, rfl⟩, ?_⟩
    simp only [Item.token, gap?_eq_some.2 ⟨i.accepted.ne_empty, i.accepted.lt, value⟩]
    rfl

/-! Readers that stop at the end of a statement. -/

/-- A token that ends a statement comes next, or the list ends. -/
def AtEnd (ts : List Token) : Prop :=
  ∀ t ∈ ts.head?, t.kind.endsStatement = true

theorem AtEnd.solid (stop : AtEnd rest) : ∀ t ∈ rest.head?, t.kind ≠ .space := by
  intro t first space
  have ends := stop t first
  rw [space] at ends
  contradiction

theorem endOfStatement_of_atEnd (stop : AtEnd rest) :
    endOfStatement ⟨n, rest⟩ = .ok ((), ⟨n + (rest.take 1).length, rest.drop 1⟩) := by
  refine (bind_of_ok (skipSpaces_of_solid stop.solid)).trans ?_
  cases rest with
  | nil => rfl
  | cons t rest =>
      change (if t.kind.endsStatement then _ else _ : Reader Unit) _ = _
      rw [if_pos (stop t rfl)]
      rfl

theorem endOfStatement_of_token (solid : t.kind ≠ .space)
    (inside : t.kind.endsStatement = false) :
    endOfStatement ⟨n, t :: rest⟩ = .error (.noMatch n) := by
  refine (bind_of_ok (skipSpaces_of_solid (by rintro _ ⟨⟩; exact solid))).trans ?_
  change (if t.kind.endsStatement then _ else _ : Reader Unit) _ = _
  rw [if_neg (by simp [inside])]
  rfl

/-- The tokens up to the end of a statement. -/
theorem exists_body (ts : List Token) :
    ∃ (run : Run) (rest : List Token), AtEnd rest ∧ ts = run.1 ++ rest := by
  obtain ⟨run, rest, inside, stop, rfl⟩ := Text.exists_run (!·.kind.endsStatement) ts
  exact ⟨⟨run, by simpa using inside⟩, rest, by simpa [AtEnd] using stop, rfl⟩

theorem body_append (run : Run) (stop : AtEnd rest) :
    body ⟨n, run.1 ++ rest⟩ = .ok (Body.ofTokens run.1, ⟨n + run.1.length, rest⟩) := by
  obtain ⟨run, inside⟩ := run
  obtain ⟨blanks, run, solid, rfl⟩ := exists_blanks run
  have inside : ∀ t ∈ run, (!t.kind.endsStatement) = true := by
    intro t mem
    simp [inside t (List.mem_append_right _ mem)]
  have solid : ∀ t ∈ (run ++ rest).head?, t.kind ≠ .space := by
    cases run with
    | nil => exact stop.solid
    | cons t run => exact solid
  have taken : (run ++ rest).takeWhile (!·.kind.endsStatement) = run :=
    (Text.run_of_stop _ inside (by intro t first; simp [stop t first])).1
  simp only [List.append_assoc, Body.ofTokens_append blanks.2, List.length_append]
  refine (bind_of_ok (skipSpaces_append blanks.2 solid)).trans ?_
  change Except.ok (Body.ofTokens _, Cursor.advance _ _) = _
  rw [taken, Cursor.advance, List.drop_left, Nat.add_assoc]

theorem body_eq_ok {s : String} : body ⟨n, ts⟩ = .ok (s, c) ↔ ∃ run : Run,
    ts = run.1 ++ c.rest ∧ AtEnd c.rest ∧ c.taken = n + run.1.length ∧ Body.ofTokens run.1 = s := by
  constructor
  · intro read
    obtain ⟨run, rest, stop, rfl⟩ := exists_body ts
    rw [body_append run stop] at read
    cases read
    exact ⟨run, rfl, stop, rfl, rfl⟩
  · rintro ⟨run, rfl, stop, taken, rfl⟩
    cases c
    cases taken
    exact body_append run stop

theorem label_of_end {blanks : List Token} (blank : ∀ t ∈ blanks, t.kind = .space) :
    label ⟨n, blanks⟩ = .ok ("", ⟨n + blanks.length, []⟩) :=
  bind_of_ok (skipSpaces_of_end blank)

theorem label_of_token {blanks : List Token} (blank : ∀ t ∈ blanks, t.kind = .space)
    (solid : t.kind ≠ .space) :
    label ⟨n, blanks ++ t :: rest⟩ =
      if t.kind = .colon then body ⟨n + blanks.length + 1, rest⟩
      else .ok ("", ⟨n + blanks.length, t :: rest⟩) := by
  refine (bind_of_ok (skipSpaces_append blank (by rintro _ ⟨⟩; exact solid))).trans ?_
  change (if t.kind = .colon then _ else _ : Reader String) _ = _
  by_cases colon : t.kind = .colon
  · rw [if_pos colon, if_pos colon]
    rfl
  · rw [if_neg colon, if_neg colon]
    rfl

theorem AtEnd.ne_colon (stop : AtEnd (t :: rest)) : t.kind ≠ .colon := by
  intro colon
  have ends := stop t rfl
  rw [colon] at ends
  contradiction

theorem label_append (l : Label) (stop : AtEnd rest) :
    label ⟨n, l.tokens ++ rest⟩ = .ok (l.text, ⟨n + l.tokens.length, rest⟩) := by
  cases l with
  | absent blanks =>
      cases rest with
      | nil =>
          rw [List.append_nil]
          exact label_of_end blanks.2
      | cons t rest =>
          refine (label_of_token blanks.2 (stop.solid t rfl)).trans ?_
          rw [if_neg stop.ne_colon]
          rfl
  | present colon run =>
      have kind : colon.token.kind = .colon := rfl
      rw [Label.tokens, List.append_assoc, colon.tokens_append,
        label_of_token colon.blanks.2 (by simp [kind]), if_pos kind, body_append run stop]
      simp only [Label.text, List.length_append, colon.length_tokens, Nat.add_assoc]

/-- A statement can end behind a label, or a token comes that belongs to no label and no end. -/
theorem label_cases (ts : List Token) :
    (∃ (l : Label) (rest : List Token), AtEnd rest ∧ ts = l.tokens ++ rest) ∨
    ∃ (blanks : Blanks) (t : Token) (rest : List Token), t.kind ≠ .space ∧ t.kind ≠ .colon ∧
      t.kind.endsStatement = false ∧ ts = blanks.1 ++ t :: rest := by
  obtain ⟨blanks, rest, solid, rfl⟩ := exists_blanks ts
  cases rest with
  | nil => exact .inl ⟨.absent blanks, [], nofun, rfl⟩
  | cons t rest =>
      by_cases colon : t.kind = .colon
      · obtain ⟨run, rest, stop, rfl⟩ := exists_body rest
        obtain ⟨_, text⟩ := t
        cases colon
        refine .inl ⟨.present ⟨blanks, text, trivial⟩ run, rest, stop, ?_⟩
        rw [Label.tokens, List.append_assoc, Item.tokens_append]
        rfl
      · by_cases ends : t.kind.endsStatement = true
        · exact .inl ⟨.absent blanks, t :: rest, by rintro _ ⟨⟩; exact ends, rfl⟩
        · exact .inr ⟨blanks, t, rest, solid t rfl, colon, by simpa using ends, rfl⟩

theorem label_end_of_token {f : String → β} {blanks : List Token}
    (blank : ∀ t ∈ blanks, t.kind = .space) (solid : t.kind ≠ .space) (other : t.kind ≠ .colon)
    (inside : t.kind.endsStatement = false) :
    (label >>= fun text => endOfStatement >>= fun _ => pure (f text)) ⟨n, blanks ++ t :: rest⟩ =
      .error (.noMatch (n + blanks.length)) := by
  refine (bind_of_ok ((label_of_token blank solid).trans (if_neg other))).trans ?_
  exact bind_of_error (endOfStatement_of_token solid inside)

/-! The names of a declaration. -/

theorem namesUpToEnd_blanks {blanks : List Token} (blank : ∀ t ∈ blanks, t.kind = .space) :
    namesUpToEnd n (blanks ++ ts) = namesUpToEnd (n + blanks.length) ts := by
  induction blanks generalizing n with
  | nil => rfl
  | cons t blanks ih =>
      rw [List.cons_append, namesUpToEnd, if_pos (blank t List.mem_cons_self),
        ih fun t mem => blank t (List.mem_cons_of_mem _ mem), List.length_cons, Nat.add_assoc,
        Nat.add_comm 1]

theorem namesUpToEnd_of_atEnd (stop : AtEnd rest) :
    namesUpToEnd n rest = .ok ([], ⟨n, rest⟩) := by
  cases rest with
  | nil => rfl
  | cons t rest => rw [namesUpToEnd, if_neg (stop.solid t rfl), if_pos (stop t rfl)]

theorem namesUpToEnd_name (fits : isName t = true) :
    namesUpToEnd n (t :: ts) = (namesUpToEnd (n + 1) ts).map fun (xs, c) => (t.text :: xs, c) := by
  have word : t.kind = .word := ((recognises_isName.fits t).1 fits).1
  rw [namesUpToEnd, if_neg (by simp [word]), if_neg (by simp [word, Token.Kind.endsStatement]),
    if_pos fits]
  rfl

theorem namesUpToEnd_append (others : List NameItem) (blanks : Blanks) (rest : List Token) :
    namesUpToEnd n (others.flatMap Item.tokens ++ blanks.1 ++ rest) =
      (namesUpToEnd (n + (others.flatMap Item.tokens ++ blanks.1).length) rest).map
        fun x => (others.map Item.text ++ x.1, x.2) := by
  induction others generalizing n with
  | nil =>
      rw [List.flatMap_nil, List.nil_append, namesUpToEnd_blanks blanks.2]
      cases namesUpToEnd (n + blanks.1.length) rest <;> rfl
  | cons i others ih =>
      have fits : isName i.token = true := (recognises_isName.fits i.token).2 ⟨rfl, i.accepted⟩
      have count : n + (i.tokens ++ others.flatMap Item.tokens ++ blanks.1).length =
          n + i.blanks.1.length + 1 + (others.flatMap Item.tokens ++ blanks.1).length := by
        simp only [List.length_append, i.length_tokens]
        omega
      rw [List.flatMap_cons, count, List.append_assoc, List.append_assoc, i.tokens_append,
        ← List.append_assoc, namesUpToEnd_blanks i.blanks.2, namesUpToEnd_name fits, ih]
      generalize namesUpToEnd _ rest = read
      cases read <;> rfl

/-- The longest run of names at the front of a list. -/
theorem exists_names (ts : List Token) : ∃ (others : List NameItem) (blanks : Blanks)
    (rest : List Token), ts = others.flatMap Item.tokens ++ blanks.1 ++ rest ∧
      ∀ t ∈ rest.head?, t.kind ≠ .space ∧ isName t = false := by
  induction ts with
  | nil => exact ⟨[], ⟨[], nofun⟩, [], rfl, nofun⟩
  | cons t ts ih =>
      obtain ⟨others, blanks, rest, rfl, stop⟩ := ih
      by_cases space : t.kind = .space
      · -- The blank belongs to the next name, if there is one.
        cases others with
        | nil =>
            exact ⟨[], ⟨t :: blanks.1, List.forall_mem_cons.2 ⟨space, blanks.2⟩⟩, rest, rfl, stop⟩
        | cons i others =>
            exact ⟨⟨⟨t :: i.blanks.1, List.forall_mem_cons.2 ⟨space, i.blanks.2⟩⟩, i.text,
              i.accepted⟩ :: others, blanks, rest, rfl, stop⟩
      · by_cases fits : isName t = true
        · have accepted := (recognises_isName.fits t).1 fits
          obtain ⟨_, text⟩ := t
          obtain ⟨rfl, valid⟩ := accepted
          exact ⟨⟨⟨[], nofun⟩, text, valid⟩ :: others, blanks, rest, rfl, stop⟩
        · exact ⟨[], ⟨[], nofun⟩, _, rfl, by rintro _ ⟨⟩; exact ⟨space, by simpa using fits⟩⟩

theorem namesUpToEnd_of_token (solid : t.kind ≠ .space) (other : isName t = false)
    (inside : t.kind.endsStatement = false) :
    namesUpToEnd n (t :: ts) = .error (.noMatch n) := by
  rw [namesUpToEnd, if_neg solid, if_neg (by simp [inside]), if_neg (by simp [other])]

theorem names_append (others : List NameItem) (blanks : Blanks) (stop : AtEnd rest) :
    names ⟨n, others.flatMap Item.tokens ++ blanks.1 ++ rest⟩ =
      .ok (others.map Item.text,
        ⟨n + (others.flatMap Item.tokens ++ blanks.1).length, rest⟩) := by
  refine (namesUpToEnd_append others blanks rest).trans ?_
  simp only [namesUpToEnd_of_atEnd stop, Except.map, List.append_nil]

theorem names_of_token (others : List NameItem) (blanks : Blanks) (solid : t.kind ≠ .space)
    (other : isName t = false) (inside : t.kind.endsStatement = false) :
    names ⟨n, others.flatMap Item.tokens ++ blanks.1 ++ t :: ts⟩ =
      .error (.noMatch (n + (others.flatMap Item.tokens ++ blanks.1).length)) := by
  refine (namesUpToEnd_append others blanks _).trans ?_
  rw [namesUpToEnd_of_token solid other inside, Except.map]

theorem names_eq_ok {xs : List String} : names ⟨n, ts⟩ = .ok (xs, c) ↔
    ∃ (others : List NameItem) (blanks : Blanks),
      ts = others.flatMap Item.tokens ++ blanks.1 ++ c.rest ∧ AtEnd c.rest ∧
      c.taken = n + (others.flatMap Item.tokens ++ blanks.1).length ∧
      others.map Item.text = xs := by
  constructor
  · intro read
    obtain ⟨others, blanks, rest, rfl, bound⟩ := exists_names ts
    have stop : AtEnd rest := by
      intro t first
      by_contra inside
      obtain ⟨solid, other⟩ := bound t first
      obtain ⟨rest, rfl⟩ := List.head?_eq_some_iff.1 first
      rw [names_of_token others blanks solid other (by simpa using inside)] at read
      contradiction
    rw [names_append others blanks stop] at read
    cases read
    exact ⟨others, blanks, rfl, stop, rfl, rfl⟩
  · rintro ⟨others, blanks, rfl, stop, count, rfl⟩
    cases c
    cases count
    exact names_append others blanks stop

end Reader

end SequenceChart
