import SequenceChart.Proofs.NormalForm
import SequenceChart.Proofs.SourceLines

/-!
Diagrams as sources. A statement is written in one line, without a comment, and a semicolon or a
line break ends it. Whatever the names and texts are, if a source can carry them at all, reading
gives the statements back: the tokens of a written statement are those of a phrase of the grammar,
and no token goes on behind its end.
-/

namespace SequenceChart

/-- Names are names, texts can be written, and a declaration names someone. -/
def Statement.WellFormed : Statement → Prop
  | .declare names => names ≠ [] ∧ ∀ name ∈ names, Name.Valid name
  | .message sender receiver text =>
    Name.Valid sender ∧ Name.Valid receiver ∧ Body.WellFormed text
  | .note _ participant text => Name.Valid participant ∧ Body.WellFormed text
  | .space gap => gap ≤ maxGap

instance (s : Statement) : Decidable s.WellFormed :=
  match s with
  | .declare names => inferInstanceAs (Decidable (names ≠ [] ∧ ∀ name ∈ names, Name.Valid name))
  | .message sender receiver text =>
    inferInstanceAs (Decidable (Name.Valid sender ∧ Name.Valid receiver ∧ Body.WellFormed text))
  | .note _ participant text =>
    inferInstanceAs (Decidable (Name.Valid participant ∧ Body.WellFormed text))
  | .space gap => inferInstanceAs (Decidable (gap ≤ maxGap))

/-- A statement as a source gives it, up to its end. -/
def Statement.written : Statement → String
  | .declare names => String.join ("object" :: names.map (" " ++ ·))
  | .message sender receiver text => sender ++ "->" ++ receiver ++ ": " ++ Body.written text
  | .note side participant text =>
    Reader.sideWord side ++ " of " ++ participant ++ ": " ++ Body.written text
  | .space gap => "space " ++ toString gap

/-- What may end a written statement. -/
inductive StatementEnd where
  | semicolon
  | lineFeed
  | carriageReturn
  | crlf
  deriving DecidableEq, Repr

def StatementEnd.token : StatementEnd → Token
  | .semicolon => ⟨.semicolon, ";"⟩
  | .lineFeed => ⟨.newline, "\n"⟩
  | .carriageReturn => ⟨.newline, "\r"⟩
  | .crlf => ⟨.newline, "\r\n"⟩

/-- Statements one after the other, each with an end of its own. -/
def Diagram.written (items : List (Statement × StatementEnd)) : String :=
  String.join (items.map fun (s, ending) => s.written ++ ending.token.text)

open Grammar Lexeme

variable {cs rest : List Char} {ls : List Lexeme} {ts : List Token} {t : Token}
  {next : Option Char} {text : String} {names : List String} {s : Statement}

/-! Texts in one line. -/

theorem no_break_of_isWord {c : Char} (word : Text.isWord c = true) : isLineBreak c = false := by
  have other : c ∉ ['\n', '\r'] := Text.not_mem_of_isWord word (by decide)
  simpa [isLineBreak] using other

/-- Line breaks stand only in tokens that end a statement. -/
theorem Token.Fits.no_break (fits : t.Fits next) (inside : t.kind.endsStatement = false) :
    ∀ c ∈ t.text.toList, isLineBreak c = false := by
  cases fits with
  | newline _ | semicolon => contradiction
  | blank | tab | colon | arrow => simp [isLineBreak]
  | word _ isWord _ =>
      intro c mem
      rw [String.toList_ofList] at mem
      exact no_break_of_isWord (isWord c mem)
  | stray alone =>
      intro c mem
      rw [String.toList_ofList, List.mem_singleton] at mem
      have other := alone.not_mark
      simp only [List.mem_cons, not_or] at other
      simp [isLineBreak, mem, other]

theorem Lexeme.Segmentation.token_fits (segments : Segmentation cs (ts.map .token))
    (mem : t ∈ ts) : (∃ next, t.Fits next) ∧ ∀ c ∈ t.text.toList, c ∈ cs := by
  have part : Lexeme.token t ∈ ts.map .token := List.mem_map_of_mem mem
  constructor
  · obtain ⟨before, after, cut⟩ := List.append_of_mem part
    rw [cut] at segments
    cases segments.fits_at with
    | token fits => exact ⟨_, fits⟩
  · intro c here
    rw [← segments.flatMap_text]
    exact List.mem_flatMap.2 ⟨_, part, here⟩

theorem Lexeme.Segmentation.no_break (segments : Segmentation cs (ts.map .token))
    (inside : ∀ t ∈ ts, t.kind.endsStatement = false) : ∀ c ∈ cs, isLineBreak c = false := by
  intro c mem
  rw [← segments.flatMap_text] at mem
  obtain ⟨l, part, here⟩ := List.mem_flatMap.1 mem
  obtain ⟨t, token, rfl⟩ := List.mem_map.1 part
  obtain ⟨⟨next, fits⟩, _⟩ := segments.token_fits token
  exact fits.no_break (inside t token) c here

theorem Token.Fits.of_plain (fits : t.Fits next)
    (no_mark : ∀ c ∈ t.text.toList, c ∉ [';', '\r', '\t', '\n']) :
    t.kind.endsStatement = false ∧ Body.tokenText t = t.text := by
  cases fits with
  | newline whole =>
      obtain ⟨c, cs, chars, breaks⟩ := isLineBreak_of_isTerminator whole
      have other := no_mark c (by simp [chars])
      simp_all [isLineBreak]
  | semicolon => exact absurd (no_mark ';' (by decide)) (by decide)
  | tab => exact absurd (no_mark '\t' (by decide)) (by decide)
  | blank | colon | arrow | word _ _ _ | stray _ => exact ⟨rfl, rfl⟩

/-- The tokens of a text that can stand in a source for itself. -/
theorem exists_run_of_plain (plain : Body.Plain cs) : ∃ run : Run,
    Segmentation cs (run.1.map .token) ∧
      Body.ofTokens run.1 = Body.normalize (String.ofList cs) := by
  have segments := segmentation_scan cs
  obtain ⟨ts, same⟩ := segments.exists_tokens plain.no_comment
  rw [same] at segments
  have single : ∀ t ∈ ts, t.kind.endsStatement = false ∧ Body.tokenText t = t.text := by
    intro t mem
    obtain ⟨⟨next, fits⟩, chars⟩ := segments.token_fits mem
    exact fits.of_plain fun c here => plain.no_mark c (chars c here)
  refine ⟨⟨ts, fun t mem => (single t mem).1⟩, segments, congrArg Body.normalize ?_⟩
  apply String.toList_injective
  rw [String.toList_join, String.toList_ofList, List.map_congr_left fun t mem => (single t mem).2,
    ← segments.flatMap_text, List.flatMap_map, List.flatMap_map]
  rfl

theorem exists_run_written (wellFormed : Body.WellFormed text) : ∃ run : Run,
    Segmentation (' ' :: (Body.written text).toList) (run.1.map .token) ∧
      Body.ofTokens run.1 = text := by
  obtain ⟨run, segments, spells⟩ := exists_run_of_plain (Body.plain_written wellFormed)
  rw [String.ofList_toList, Body.normalize_written wellFormed] at spells
  refine ⟨⟨⟨.space, " "⟩ :: run.1, List.forall_mem_cons.2 ⟨rfl, run.2⟩⟩, ?_, ?_⟩
  · exact .cons (.token .blank) segments
  · rwa [Body.ofTokens_blank rfl]

/-! Words and the marks around them. -/

theorem stop_of_mark {c : Char} (mark : Text.isWord c = false) :
    ∀ c' ∈ (c :: rest).head?, Text.isWord c' = false := by
  intro c' first
  cases first
  exact mark

theorem Lexeme.Segmentation.word (text : String) (ne_empty : text ≠ "")
    (isWord : ∀ c ∈ text.toList, Text.isWord c = true)
    (stop : ∀ c ∈ rest.head?, Text.isWord c = false) (others : Segmentation rest ls) :
    Segmentation (text.toList ++ rest) (.token ⟨.word, text⟩ :: ls) := by
  have fits := Token.Fits.word (mt String.toList_eq_nil_iff.1 ne_empty) isWord stop
  rw [String.ofList_toList] at fits
  exact .cons (.token fits) others

theorem Lexeme.Segmentation.keyword {c : Char} (text : String)
    (letters : text ≠ "" ∧ text.toList.all Text.isWord = true) (mark : Text.isWord c = false)
    (others : Segmentation (c :: rest) ls) :
    Segmentation (text.toList ++ c :: rest) (.token ⟨.word, text⟩ :: ls) :=
  .word text letters.1 (List.all_eq_true.1 letters.2) (stop_of_mark mark) others

theorem Lexeme.Segmentation.blank (others : Segmentation rest ls) :
    Segmentation (' ' :: rest) (.token ⟨.space, " "⟩ :: ls) :=
  .cons (.token .blank) others

/-- A name with a colon behind it, as before every text. -/
theorem Lexeme.Segmentation.labelled (valid : Name.Valid text)
    (body : Segmentation (' ' :: cs) ls) : Segmentation (text.toList ++ (": ".toList ++ cs))
      (.token ⟨.word, text⟩ :: .token ⟨.colon, ":"⟩ :: ls) :=
  .word _ valid.ne_empty valid.isWord (stop_of_mark (by decide)) (.cons (.token .colon) body)

def Grammar.noBlanks : Blanks := ⟨[], nofun⟩

def Grammar.oneBlank : Blanks := ⟨[⟨.space, " "⟩], by simp⟩

/-- Names with a blank before each of them. -/
theorem exists_items (valid : ∀ name ∈ names, Name.Valid name) : ∃ items : List NameItem,
    items.map Item.text = names ∧
    Segmentation (names.flatMap fun name => ' ' :: name.toList)
      ((items.flatMap Item.tokens).map .token) := by
  induction names with
  | nil => exact ⟨[], rfl, .nil⟩
  | cons name names ih =>
      obtain ⟨here, others⟩ := List.forall_mem_cons.1 valid
      obtain ⟨items, same, segments⟩ := ih others
      refine ⟨⟨oneBlank, name, here⟩ :: items, congrArg (name :: ·) same, ?_⟩
      refine .blank (.word name here.ne_empty here.isWord ?_ segments)
      cases names with
      | nil => exact nofun
      | cons name names => exact stop_of_mark (by decide)

/-! Numbers. -/

theorem decimal_toString (n : Nat) : decimal (toString n) = n := by
  rw [← Reader.foldl_eq_decimal, ← Nat.ofDigitChars_eq_foldl, Nat.toString_eq_repr,
    Nat.toList_repr, Nat.ofDigitChars_ten_toDigits]

theorem isGap_toString {n : Nat} (le : n ≤ maxGap) : IsGap (toString n) where
  ne_empty := by
    rw [Nat.toString_eq_repr, Ne, ← String.toList_eq_nil_iff, Nat.toList_repr]
    exact Nat.toDigits_ne_nil
  isDigit := by
    rw [Nat.toString_eq_repr, Nat.toList_repr]
    exact fun c mem => Nat.isDigit_of_mem_toDigits (by decide) (by decide) mem
  lt := by
    rw [decimal_toString]
    exact Nat.lt_succ_of_le le

theorem Grammar.IsGap.isWord (gap : IsGap text) : ∀ c ∈ text.toList, Text.isWord c = true := by
  intro c mem
  simp [Text.isWord, Char.isAlphanum, gap.isDigit c mem]

/-! What a written statement means. -/

/-- Tokens that a statement is written with, and that mean it in front of the end of a statement. -/
structure Spells (s : Statement) (ts : List Token) : Prop where
  segments : Segmentation s.written.toList (ts.map .token)
  inside : ∀ t ∈ ts, t.kind.endsStatement = false
  meaning : ∀ t rest, t.kind.endsStatement = true →
    Program.meaning (ts ++ t :: rest) = (Program.meaning rest).map (s :: ·)

theorem Spells.of_clause (c : Clause)
    (segments : Segmentation c.statement.written.toList (c.tokens.map .token)) :
    Spells c.statement c.tokens :=
  ⟨segments, c.runs_on, fun _ rest ends => Program.meaning_ended c ends rest⟩

theorem spells_gap {gap : Nat} (le : gap ≤ maxGap) :
    Spells (.space gap) [⟨.word, "space"⟩, ⟨.space, " "⟩, ⟨.word, toString gap⟩] where
  segments := by
    have digits := isGap_toString le
    have number : Segmentation ((toString gap).toList ++ []) _ :=
      .word _ digits.ne_empty digits.isWord nofun .nil
    rw [List.append_nil] at number
    rw [Statement.written, String.toList_append]
    exact .keyword "space" (by decide) (by decide) number.blank
  inside := by simp [Token.Kind.endsStatement]
  meaning t rest ends := by
    -- A gap is complete without an end, so the end is passed over like any loose token.
    have phrase := Program.meaning_phrase (.gap ⟨oneBlank, _, isGap_toString le⟩) (t :: rest)
    rwa [Program.meaning_loose (Program.loose_of_ends ends), Phrase.statement,
      decimal_toString] at phrase

theorem toList_written_declare (names : List String) : (Statement.declare names).written.toList =
    "object".toList ++ names.flatMap fun name => ' ' :: name.toList := by
  simp only [Statement.written, String.toList_join, List.flatMap_cons, List.flatMap_map,
    String.toList_append]
  rfl

theorem exists_spelling_declare (ne_nil : names ≠ []) (valid : ∀ name ∈ names, Name.Valid name) :
    ∃ ts, Spells (.declare names) ts := by
  obtain ⟨items, rfl, segments⟩ := exists_items valid
  cases items with
  | nil => contradiction
  | cons first others =>
      have tokens : (Clause.declaration first others noBlanks).tokens =
          ⟨.word, "object"⟩ :: (first :: others).flatMap Item.tokens := by
        simp [Clause.tokens, Clause.lead, Clause.tail, noBlanks]
      refine ⟨_, .of_clause (.declaration first others noBlanks) ?_⟩
      change Segmentation (Statement.declare ((first :: others).map Item.text)).written.toList _
      rw [tokens, toList_written_declare]
      exact .keyword "object" (by decide) (by decide) segments

theorem exists_spelling_message {sender receiver : String} (validSender : Name.Valid sender)
    (validReceiver : Name.Valid receiver) (wellFormed : Body.WellFormed text) :
    ∃ ts, Spells (.message sender receiver text) ts := by
  obtain ⟨run, segments, rfl⟩ := exists_run_written wellFormed
  refine ⟨_, .of_clause (.message ⟨sender, validSender⟩ ⟨noBlanks, "->", trivial⟩
    ⟨noBlanks, receiver, validReceiver⟩ (.present ⟨noBlanks, ":", trivial⟩ run)) ?_⟩
  simp only [Clause.statement, Statement.written, String.toList_append, List.append_assoc]
  exact .word _ validSender.ne_empty validSender.isWord (stop_of_mark (by decide))
    (.cons (.token .arrow) (segments.labelled validReceiver))

theorem exists_spelling_note {participant : String} (side : Side)
    (valid : Name.Valid participant) (wellFormed : Body.WellFormed text) :
    ∃ ts, Spells (.note side participant text) ts := by
  obtain ⟨run, segments, rfl⟩ := exists_run_written wellFormed
  have word : Name.Valid (Reader.sideWord side) := by cases side <;> decide
  refine ⟨_, .of_clause (.note side ⟨oneBlank, "of", rfl⟩ ⟨oneBlank, participant, valid⟩
    ⟨noBlanks, ":", trivial⟩ run) ?_⟩
  simp only [Clause.statement, Statement.written, String.toList_append, List.append_assoc]
  exact .word _ word.ne_empty word.isWord (stop_of_mark (by decide)) (.blank
    (.keyword "of" (by decide) (by decide) (segments.labelled valid).blank))

theorem exists_spelling (wellFormed : s.WellFormed) : ∃ ts, Spells s ts := by
  cases s with
  | declare names => exact exists_spelling_declare wellFormed.1 wellFormed.2
  | message sender receiver text =>
      obtain ⟨validSender, validReceiver, body⟩ := wellFormed
      exact exists_spelling_message validSender validReceiver body
  | note side participant text => exact exists_spelling_note side wellFormed.1 wellFormed.2
  | space gap => exact ⟨_, spells_gap wellFormed⟩

/-! Written diagrams. -/

theorem Statement.written_ne_empty (s : Statement) : s.written ≠ "" := by
  cases s <;> simp [Statement.written, String.join_cons, String.append_eq_empty_iff]

/-- A carriage return alone ends a line only where no line feed follows. -/
theorem StatementEnd.fits (ending : StatementEnd) (whole : next ≠ some '\n') :
    ending.token.Fits next := by
  cases ending with
  | semicolon => exact .semicolon
  | lineFeed => exact .newline .lf
  | carriageReturn => exact .newline (.cr whole)
  | crlf => exact .newline .crlf

theorem StatementEnd.ends (ending : StatementEnd) : ending.token.kind.endsStatement = true := by
  cases ending <;> rfl

theorem StatementEnd.exists_first (ending : StatementEnd) :
    ∃ c cs, ending.token.text.toList = c :: cs ∧ c ∈ ['\n', '\r', ';'] := by
  cases ending with
  | semicolon => exact ⟨';', [], rfl, by decide⟩
  | lineFeed => exact ⟨'\n', [], rfl, by decide⟩
  | carriageReturn => exact ⟨'\r', [], rfl, by decide⟩
  | crlf => exact ⟨'\r', ['\n'], rfl, by decide⟩

variable {items : List (Statement × StatementEnd)} {mode : CommentNewline}

theorem Diagram.toList_written_cons (s : Statement) (ending : StatementEnd) :
    (Diagram.written ((s, ending) :: items)).toList =
      s.written.toList ++ (ending.token.text.toList ++ (Diagram.written items).toList) := by
  simp only [Diagram.written, List.map_cons, String.join_cons, String.toList_append,
    List.append_assoc]

/-- No line feed follows the end of a statement. -/
theorem Diagram.head_written (wellFormed : ∀ item ∈ items, item.1.WellFormed) :
    (Diagram.written items).toList.head? ≠ some '\n' := by
  cases items with
  | nil => exact nofun
  | cons item items =>
      obtain ⟨s, ending⟩ := item
      obtain ⟨here, _⟩ := List.forall_mem_cons.1 wellFormed
      obtain ⟨ts, spells⟩ := exists_spelling here
      have no_break := spells.segments.no_break spells.inside
      rw [Diagram.toList_written_cons]
      cases chars : s.written.toList with
      | nil => exact (s.written_ne_empty (String.toList_eq_nil_iff.1 chars)).elim
      | cons c cs =>
          rw [chars] at no_break
          intro feed
          cases feed
          exact absurd (no_break '\n' List.mem_cons_self) (by decide)

theorem ofChars_written {ts : List Token} (spells : Spells s ts) (ending : StatementEnd)
    (next : rest.head? ≠ some '\n') :
    Token.ofChars mode (s.written.toList ++ (ending.token.text.toList ++ rest)) =
      ts ++ ending.token :: Token.ofChars mode rest := by
  obtain ⟨c, cs, chars, mark⟩ := ending.exists_first
  rw [ofChars_append spells.segments (spells.segments.no_break spells.inside),
    ofChars_cons (ending.fits next)]
  · rw [chars]
    intro c' same
    cases same
    exact List.mem_append_left ['/'] mark
  · rw [chars]
    intro same
    cases same
    contradiction

namespace Program

theorem meaning_written (wellFormed : ∀ item ∈ items, item.1.WellFormed) :
    meaning (Token.scan mode (Diagram.written items)) = .ok (items.map Prod.fst) := by
  change meaning (Token.ofChars mode _ ++ [Token.endOfInput]) = _
  induction items with
  | nil =>
      change meaning (Token.ofChars mode [] ++ _) = _
      rw [ofChars_nil, List.nil_append, meaning_loose (loose_of_ends rfl), meaning_nil]
      rfl
  | cons item items ih =>
      obtain ⟨s, ending⟩ := item
      obtain ⟨here, others⟩ := List.forall_mem_cons.1 wellFormed
      obtain ⟨ts, spells⟩ := exists_spelling here
      rw [Diagram.toList_written_cons, ofChars_written spells ending (Diagram.head_written others),
        List.append_assoc, List.cons_append, spells.meaning _ _ ending.ends, ih others]
      rfl

/-- A written diagram reads as the diagram, whatever ends its statements and in both modes. -/
theorem ofSource_written (mode : CommentNewline) (items : List (Statement × StatementEnd))
    (wellFormed : ∀ item ∈ items, item.1.WellFormed) :
    ∃ p, ofSource mode (Diagram.written items) = .ok p ∧ p.diagram = items.map Prod.fst :=
  meaning_eq_ok.1 (meaning_written wellFormed)

theorem ofSource_written_marks : ∃ p,
    ofSource .swallow ("object object left\robject->left: a\\\\n\\n-> b: c/;" ++
      "right of of: \r\nspace 4294967295\n") = .ok p ∧
    p.diagram = [.declare ["object", "left"], .message "object" "left" "a\\\n\n-> b: c/",
      .note .right "of" "", .space 4294967295] :=
  ofSource_written .swallow [(.declare ["object", "left"], .carriageReturn),
    (.message "object" "left" "a\\\n\n-> b: c/", .semicolon), (.note .right "of" "", .crlf),
    (.space 4294967295, .lineFeed)] (by decide)

end Program

end SequenceChart
