import SequenceChart.Proofs.LineBreaks

/-!
What reading gives can be written. A statement is read from a run of tokens, and comments may have
stood between them. Slashes of a text are tokens by themselves, and two of them would be a comment;
since a comment starts with a slash too, leaving it out brings no slashes together either. A marker
may well come together in this way, but normalising looks for markers last.
-/

namespace SequenceChart

open Lexeme Grammar

variable {t : Token} {ts us : List Token} {l : Lexeme} {ls : List Lexeme} {cs : List Char}
  {next : Option Char} {mode : CommentNewline} {source text : String} {s : Statement}

/-! What tokens spell. -/

namespace Body

/-- The text that a run of tokens spells, as written. -/
def spelled (ts : List Token) : List Char :=
  ts.flatMap fun t => (tokenText t).toList

theorem spelled_append (ts us : List Token) : spelled (ts ++ us) = spelled ts ++ spelled us :=
  List.flatMap_append

theorem spelled_singleton (t : Token) : spelled [t] = (tokenText t).toList :=
  List.append_nil _

theorem spelled_isInfix (part : ts <:+: us) : spelled ts <:+: spelled us := by
  obtain ⟨front, back, rfl⟩ := part
  exact ⟨spelled front, spelled back, by rw [spelled_append, spelled_append]⟩

theorem ofTokens_eq (ts : List Token) :
    ofTokens ts = normalize (String.ofList (spelled ts)) := by
  apply congrArg normalize
  apply String.toList_injective
  rw [String.toList_join, String.toList_ofList, List.flatMap_map]
  rfl

end Body

namespace Token

theorem Fits.tokenText_ne_nil (fits : t.Fits next) : (Body.tokenText t).toList ≠ [] := by
  cases fits with
  | newline whole => cases whole <;> decide
  | blank | tab | colon | semicolon | arrow => decide
  | word ne_nil _ _ => simpa [Body.tokenText] using ne_nil
  | stray _ => simp [Body.tokenText]

theorem Fits.tokenText_slash (fits : t.Fits next) (mem : '/' ∈ (Body.tokenText t).toList) :
    Body.tokenText t = t.text ∧ t.text = "/" ∧ next ≠ some '/' := by
  rw [Body.tokenText] at mem ⊢
  split at mem
  case isTrue => simp at mem
  case isFalse solid => exact ⟨if_neg solid, fits.slash mem⟩

theorem Fits.tokenText_no_mark (fits : t.Fits next) (inside : t.kind.endsStatement = false) :
    ∀ c ∈ (Body.tokenText t).toList, c ∉ [';', '\r', '\t', '\n'] := by
  cases fits with
  | newline _ | semicolon => contradiction
  | blank | tab | colon | arrow => simp [Body.tokenText]
  | word _ isWord _ =>
      intro c mem
      have word := isWord c (by simpa [Body.tokenText] using mem)
      exact Text.not_mem_of_isWord word (by decide)
  | @stray c alone =>
      intro c' mem
      have same : c' = c := by simpa [Body.tokenText] using mem
      have other := alone.not_mark
      simp only [List.mem_cons, not_or] at other
      simp [same, other]

end Token

/-! Slashes. -/

theorem IsTerminator.no_slash {terminator : String} (whole : IsTerminator next terminator) :
    '/' ∉ terminator.toList := by
  cases whole <;> decide

namespace Lexeme

/-- A slash comes from a token of its own, in front of which no comment starts. -/
theorem Fits.spelled_slash (fits : l.Fits next) (mem : '/' ∈ Body.spelled (l.tokens mode)) :
    Body.spelled (l.tokens mode) = ['/'] ∧ l.text.toList = ['/'] ∧ next ≠ some '/' := by
  cases fits with
  | token fits =>
      rw [tokens, Body.spelled_singleton] at mem ⊢
      obtain ⟨same, slash, apart⟩ := fits.tokenText_slash mem
      rw [same, Lexeme.text, slash]
      exact ⟨rfl, rfl, apart⟩
  | comment _ ended =>
      cases mode with
      | swallow => contradiction
      | keep =>
          rw [tokens] at mem
          split at mem
          · contradiction
          · rw [Body.spelled_singleton] at mem
            exact (ended.no_slash mem).elim
  | lastComment _ _ => cases mode <;> contradiction

/-- Only comments spell nothing, and they start with a slash. -/
theorem Fits.head?_of_silent (fits : l.Fits next) (silent : Body.spelled (l.tokens mode) = []) :
    l.text.toList.head? = some '/' := by
  cases fits with
  | token fits =>
      rw [tokens, Body.spelled_singleton] at silent
      exact (fits.tokenText_ne_nil silent).elim
  | comment _ _ | lastComment _ _ => simp [Lexeme.text]

/-- The tokens of a text spell no two slashes in a row. A text whose tokens spell a slash first
starts with one, be it this slash or that of a comment; the induction needs this for the token in
front. -/
theorem Segmentation.no_slashes (segments : Segmentation cs ls) (mode : CommentNewline) :
    ¬ ['/', '/'] <:+: Body.spelled (ls.flatMap (·.tokens mode)) ∧
      ((Body.spelled (ls.flatMap (·.tokens mode))).head? = some '/' → cs.head? = some '/') := by
  induction segments with
  | nil => simp [Body.spelled]
  | @cons l ls rest fits _ ih =>
      obtain ⟨apart, first⟩ := ih
      rw [List.flatMap_cons, Body.spelled_append]
      constructor
      · intro meet
        obtain here | later | ⟨last, behind⟩ := pair_infix_append meet
        · rw [(fits.spelled_slash (here.mem List.mem_cons_self)).1] at here
          exact absurd here (by decide)
        · exact apart later
        · exact (fits.spelled_slash (List.mem_of_getLast? last)).2.2 (first behind)
      · intro slash
        rw [List.head?_append] at slash ⊢
        cases chars : Body.spelled (l.tokens mode) with
        | nil => rw [fits.head?_of_silent chars, Option.some_or]
        | cons c cs =>
            rw [chars] at slash
            cases slash
            have mem : '/' ∈ Body.spelled (l.tokens mode) := chars ▸ List.mem_cons_self
            rw [(fits.spelled_slash mem).2.1]
            rfl

end Lexeme

/-! Texts. -/

namespace Body

/-- A run of tokens inside a statement spells a text that a source line can carry. -/
theorem plain_spelled (part : ts <:+: Token.scan mode source)
    (inside : ∀ t ∈ ts, t.kind.endsStatement = false) : Plain (spelled ts) where
  no_mark c mem := by
    obtain ⟨t, token, here⟩ := List.mem_flatMap.1 mem
    obtain ⟨next, fits⟩ := Token.exists_fits_of_scan (part.mem token) (inside t token)
    exact fits.tokenText_no_mark (inside t token) c here
  no_comment slashes := by
    have whole := slashes.trans (spelled_isInfix part)
    have nothing : spelled [Token.endOfInput] = [] := rfl
    rw [Token.scan, spelled_append, nothing, List.append_nil] at whole
    exact ((segmentation_scan source.toList).no_slashes mode).1 whole

theorem wellFormed_ofTokens (part : ts <:+: Token.scan mode source)
    (inside : ∀ t ∈ ts, t.kind.endsStatement = false) : WellFormed (ofTokens ts) := by
  rw [ofTokens_eq]
  apply wellFormed_normalize
  rw [String.toList_ofList]
  exact plain_spelled part inside

/-- Lines in normal form are drawn as they are. -/
theorem WellFormed.textLines_eq (wellFormed : WellFormed text) :
    textLines text = if text = "" then [] else Text.splitLines text := by
  unfold textLines
  split
  case isTrue => rfl
  case isFalse some_line =>
    have normal := wellFormed.resolve_left some_line
    refine (List.map_congr_left fun line part => ?_).trans (List.map_id _)
    exact (normal.line line part).trimmed

end Body

/-! Statements. -/

namespace Grammar

theorem Label.wellFormed (label : Label) (part : label.tokens <:+: Token.scan mode source) :
    Body.WellFormed label.text := by
  cases label with
  | absent _ => exact .inl rfl
  | present colon body =>
      exact Body.wellFormed_ofTokens ((List.suffix_append _ _).isInfix.trans part) body.2

theorem Clause.wellFormed (c : Clause) (part : c.tokens <:+: Token.scan mode source) :
    c.statement.WellFormed := by
  have behind : c.tail <:+: Token.scan mode source :=
    (List.suffix_cons _ _).isInfix.trans part
  cases c with
  | declaration first others _ =>
      refine ⟨List.cons_ne_nil _ _, List.forall_mem_cons.2 ⟨first.accepted, ?_⟩⟩
      rw [List.forall_mem_map]
      exact fun i _ => i.accepted
  | message sender arrow receiver label =>
      have last : label.tokens <:+ arrow.tokens ++ (receiver.tokens ++ label.tokens) :=
        (List.suffix_append _ _).trans (List.suffix_append _ _)
      exact ⟨sender.2, receiver.accepted, label.wellFormed (last.isInfix.trans behind)⟩
  | note side of participant colon body =>
      have last : body.1 <:+ of.tokens ++ (participant.tokens ++ (colon.tokens ++ body.1)) :=
        ((List.suffix_append _ _).trans (List.suffix_append _ _)).trans (List.suffix_append _ _)
      exact ⟨participant.accepted, Body.wellFormed_ofTokens (last.isInfix.trans behind) body.2⟩

end Grammar

namespace Statement

/-- The texts that a statement shows. -/
def texts : Statement → List String
  | .message _ _ text | .note _ _ text => [text]
  | .declare _ | .space _ => []

theorem WellFormed.of_mem_texts (wellFormed : s.WellFormed) (shown : text ∈ s.texts) :
    Body.WellFormed text := by
  cases s with
  | declare _ | space _ => contradiction
  | message sender receiver text =>
      rw [List.mem_singleton.1 shown]
      exact wellFormed.2.2
  | note side participant text =>
      rw [List.mem_singleton.1 shown]
      exact wellFormed.2

end Statement

namespace Program

variable {p : Program}

theorem wellFormed_of_ofSource (read : ofSource mode source = .ok p) :
    ∀ s ∈ p.diagram, s.WellFormed := by
  obtain ⟨es, entries, rfl⟩ := ofTokens_eq_ok.1 read
  obtain ⟨d, same⟩ := exists_derivation entries
  rw [← same, entriesFrom_tokens] at entries
  cases entries
  rw [diagram, List.forall_mem_map]
  refine d.forall_entries (fun amount => Nat.le_of_lt_succ amount.accepted.lt) ?_ 0 0
  exact fun c part => c.wellFormed (same ▸ part)

/-- Whatever the source is, reading gives statements in normal form, and their texts are measured
and drawn line by line as they were read. -/
theorem read_in_normal_form (read : ofSource mode source = .ok p) : ∀ s ∈ p.diagram,
    s.WellFormed ∧ ∀ text ∈ s.texts,
      textLines text = (if text = "" then [] else Text.splitLines text) ∧
      longestLine text =
        ((if text = "" then [] else Text.splitLines text).map String.length).foldr max 0 := by
  intro s mem
  have wellFormed := wellFormed_of_ofSource read s mem
  refine ⟨wellFormed, fun text shown => ?_⟩
  have lines := (Statement.WellFormed.of_mem_texts wellFormed shown).textLines_eq
  exact ⟨lines, by rw [longestLine, lines]⟩

/-- Here a comment stands between the two characters of a marker. -/
theorem read_in_normal_form_marker : ∃ p,
    ofSource .swallow "A->B: a \\// x\nn\tb/ ;" = .ok p ∧
    p.diagram = [.message "A" "B" "a\nb/"] ∧ (∀ s ∈ p.diagram, s.WellFormed) ∧
    textLines "a\nb/" = Text.splitLines "a\nb/" := by
  have parsed : (ofSource .swallow "A->B: a \\// x\nn\tb/ ;").map diagram =
      .ok [.message "A" "B" "a\nb/"] := by
    decide +kernel
  obtain ⟨p, read, statements⟩ := map_eq_ok.1 parsed
  have normal := read_in_normal_form read
  refine ⟨p, read, statements, fun s mem => (normal s mem).1, ?_⟩
  rw [statements] at normal
  exact ((List.forall_mem_singleton.1 normal).2 _ List.mem_cons_self).1

end Program

end SequenceChart
