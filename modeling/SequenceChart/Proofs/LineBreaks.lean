import SequenceChart.Proofs.Lifelines
import SequenceChart.Proofs.Normalising
import SequenceChart.Proofs.Writing

/-!
Line breaks do not get from a source into its drawing. Tokens inside a statement hold none, so
neither names nor texts as written do. Those that a text gets instead of its markers part its lines,
and lines are drawn one by one.
-/

namespace SequenceChart

open Lexeme (isLineBreak)

/-- There is no line break in the text. -/
def NoBreak (s : String) : Prop :=
  ∀ c ∈ s.toList, isLineBreak c = false

theorem Name.Valid.noBreak {name : String} (valid : Name.Valid name) : NoBreak name :=
  fun c mem => no_break_of_isWord (valid.isWord c mem)

/-! Texts. -/

namespace Body

/-- The line feeds that normalising puts between lines are not in the lines. -/
theorem noBreak_of_normalize {raw line : String} (noBreak : NoBreak raw)
    (part : line ∈ textLines (normalize raw)) : NoBreak line := by
  unfold textLines at part
  split at part
  · contradiction
  · obtain ⟨piece, cut, rfl⟩ := List.mem_map.1 part
    intro c mem
    obtain ⟨inside, no_feed⟩ := Text.mem_of_mem_splitLines cut ((Text.trim_isInfix piece).mem mem)
    obtain ⟨line, written, here⟩ := (Text.mem_joinLines inside).resolve_left no_feed
    exact noBreak c ((infix_of_mem_lines written).mem here)

theorem noBreak_of_ofTokens {ts : List Token} {line : String}
    (noBreak : ∀ t ∈ ts, NoBreak t.text) (part : line ∈ textLines (ofTokens ts)) :
    NoBreak line := by
  refine noBreak_of_normalize (fun c mem => ?_) part
  rw [String.toList_join, List.flatMap_map] at mem
  obtain ⟨t, token, here⟩ := List.mem_flatMap.1 mem
  rw [tokenText] at here
  split at here
  · rw [List.mem_singleton.1 here]
    rfl
  · exact noBreak t token c here

end Body

/-! Tokens. -/

/-- A token of a statement stands in the source, and it fits there. -/
theorem Token.exists_fits_of_scan {mode : CommentNewline} {source : String} {t : Token}
    (mem : t ∈ Token.scan mode source) (inside : t.kind.endsStatement = false) :
    ∃ next, t.Fits next := by
  cases List.mem_append.1 mem with
  | inr last =>
      cases List.mem_singleton.1 last
      contradiction
  | inl mem =>
      obtain ⟨l, part, mem⟩ := List.mem_flatMap.1 mem
      obtain ⟨before, after, cut⟩ := List.append_of_mem part
      have segments := Lexeme.segmentation_scan source.toList
      rw [cut] at segments
      cases segments.fits_at.token_cases mode mem with
      | inl fits => exact ⟨_, fits⟩
      | inr newline =>
          rw [newline] at inside
          contradiction

/-! Statements. -/

/-- Neither a name nor a line of the text has a line break. -/
def Statement.Unbroken : Statement → Prop
  | .declare names => ∀ name ∈ names, NoBreak name
  | .message sender receiver text =>
    NoBreak sender ∧ NoBreak receiver ∧ ∀ line ∈ textLines text, NoBreak line
  | .note _ participant text => NoBreak participant ∧ ∀ line ∈ textLines text, NoBreak line
  | .space _ => True

namespace Grammar

theorem Label.noBreak (label : Label) (tokens : ∀ t ∈ label.tokens, NoBreak t.text) :
    ∀ line ∈ textLines label.text, NoBreak line := by
  cases label with
  | absent _ => exact nofun
  | present colon body =>
      exact fun line => Body.noBreak_of_ofTokens fun t mem =>
        tokens t (List.mem_append_right _ mem)

theorem Clause.unbroken (c : Clause) (tokens : ∀ t ∈ c.tokens, NoBreak t.text) :
    c.statement.Unbroken := by
  cases c with
  | declaration first others _ =>
      refine List.forall_mem_cons.2 ⟨first.accepted.noBreak, ?_⟩
      rw [List.forall_mem_map]
      exact fun i _ => i.accepted.noBreak
  | message sender _ receiver label =>
      refine ⟨sender.2.noBreak, receiver.accepted.noBreak, label.noBreak fun t mem => ?_⟩
      exact tokens t (by simp [Clause.tokens, Clause.tail, mem])
  | note _ _ participant _ body =>
      refine ⟨participant.accepted.noBreak, fun line => Body.noBreak_of_ofTokens fun t mem => ?_⟩
      exact tokens t (by simp [Clause.tokens, Clause.tail, mem])

theorem Derivation.unbroken (d : Derivation) (start index : Nat)
    (tokens : ∀ t ∈ d.tokens, t.kind.endsStatement = false → NoBreak t.text) :
    ∀ e ∈ d.entries start index, e.statement.Unbroken := by
  refine d.forall_entries (fun _ => trivial) (fun c part => ?_) start index
  exact c.unbroken fun t mem => tokens t (part.mem mem) (c.runs_on t mem)

end Grammar

theorem Program.unbroken_of_ofSource {mode : CommentNewline} {source : String} {p : Program}
    (read : ofSource mode source = .ok p) : ∀ s ∈ p.diagram, s.Unbroken := by
  obtain ⟨es, entries, rfl⟩ := ofTokens_eq_ok.1 read
  obtain ⟨d, same⟩ := exists_derivation entries
  rw [← same, entriesFrom_tokens] at entries
  cases entries
  rw [diagram, List.forall_mem_map]
  refine d.unbroken 0 0 fun t mem inside => ?_
  obtain ⟨next, fits⟩ := Token.exists_fits_of_scan (same ▸ mem) inside
  exact fits.no_break inside

/-! Strokes. -/

namespace Stroke

/-- The characters that a stroke is made of. -/
def characters : Stroke → List Char
  | .glyph _ _ ch | .hline _ _ _ ch | .vline _ _ _ ch => [ch]
  | .text _ _ s => s.toList
  | .frame .. => [Glyph.corner, Glyph.horizontal, Glyph.vertical]

theorem mem_characters_of_ink {s : Stroke} {x y : Nat} {ch : Char} (ink : s.ink x y = some ch) :
    ch ∈ s.characters := by
  cases s with
  | glyph _ _ _ | hline _ _ _ _ | vline _ _ _ _ =>
      exact List.mem_singleton.2 (Ink.bounds_of_block ink).2
  | text _ _ _ => exact (Ink.bounds_of_chars ink).2.2.2.1
  | frame _ _ _ _ =>
      simp only [Stroke.ink, Ink.frame] at ink
      split at ink
      · split_ifs at ink <;> cases ink <;> simp [characters]
      · contradiction

def Unbroken (s : Stroke) : Prop :=
  ∀ ch ∈ s.characters, isLineBreak ch = false

/-- For strokes whose characters can be counted up. -/
theorem unbroken_of_characters {ss : List Stroke}
    (solid : (ss.flatMap characters).all (!isLineBreak ·) = true) : ∀ s ∈ ss, s.Unbroken := by
  intro s mem ch here
  simpa using List.all_eq_true.1 solid ch (List.mem_flatMap.2 ⟨s, mem, here⟩)

end Stroke

namespace Statement

theorem Unbroken.strokes {s : Statement} (unbroken : s.Unbroken) (l : Layout) (band : Band) :
    ∀ stroke ∈ s.strokes l band, stroke.Unbroken := by
  have label {text : String} (lines : ∀ line ∈ textLines text, NoBreak line) (start : String → Nat)
      (top : Nat) : ∀ stroke ∈ textStrokes start top text, stroke.Unbroken := by
    intro stroke mem
    obtain ⟨⟨line, k⟩, place, rfl⟩ := List.mem_map.1 mem
    exact lines line (List.mem_of_getElem? (List.mem_zipIdx_iff_getElem?.1 place))
  cases s with
  | declare _ | space _ => exact fun _ mem => (List.not_mem_nil mem).elim
  | message sender receiver text =>
      have lines := label unbroken.2.2
      simp only [Statement.strokes]
      split
      · split
        · exact List.forall_mem_append.2 ⟨lines _ _, Stroke.unbroken_of_characters rfl⟩
        · split
          · exact List.forall_mem_append.2 ⟨lines _ _, Stroke.unbroken_of_characters rfl⟩
          · exact List.forall_mem_append.2 ⟨lines _ _, Stroke.unbroken_of_characters rfl⟩
      · exact fun _ mem => (List.not_mem_nil mem).elim
  | note side participant text =>
      have lines := label unbroken.2
      simp only [Statement.strokes]
      split
      · refine List.forall_mem_append.2 ⟨List.forall_mem_append.2 ⟨?_, lines _ _⟩,
          Stroke.unbroken_of_characters rfl⟩
        cases side <;> exact Stroke.unbroken_of_characters rfl
      · exact fun _ mem => (List.not_mem_nil mem).elim

theorem Unbroken.mention {s : Statement} (unbroken : s.Unbroken) :
    ∀ name ∈ s.mentions, NoBreak name := by
  cases s with
  | declare names => exact unbroken
  | message sender receiver text => simpa [mentions] using ⟨unbroken.1, unbroken.2.1⟩
  | note side participant text => simpa [mentions] using unbroken.1
  | space _ => exact fun _ mem => (List.not_mem_nil mem).elim

end Statement

namespace Layout

variable {d : Diagram}

theorem unbroken_frameStrokes (unbroken : ∀ s ∈ d, s.Unbroken) :
    ∀ stroke ∈ (ofDiagram d).frameStrokes, stroke.Unbroken := by
  refine List.forall_mem_append.2 ⟨fun stroke mem => ?_, fun stroke mem => ?_⟩
  · obtain ⟨c, column, mem⟩ := List.mem_flatMap.1 mem
    obtain ⟨i, name, here, rfl⟩ := mem_columns column
    obtain ⟨s, statement, mentioned⟩ :=
      List.mem_flatMap.1 (List.mem_eraseDups.1 (List.mem_of_getElem? here))
    cases List.mem_cons.1 mem with
    | inl frame => exact Stroke.unbroken_of_characters rfl stroke (List.mem_singleton.2 frame)
    | inr text =>
        rw [List.mem_singleton.1 text]
        exact (unbroken s statement).mention name mentioned
  · obtain ⟨c, _, rfl⟩ := List.mem_map.1 mem
    exact Stroke.unbroken_of_characters rfl _ (List.mem_singleton_self _)

theorem unbroken_strokes (unbroken : ∀ s ∈ d, s.Unbroken) :
    ∀ stroke ∈ (ofDiagram d).strokes d, stroke.Unbroken := by
  refine List.forall_mem_append.2 ⟨unbroken_frameStrokes unbroken, fun stroke mem => ?_⟩
  obtain ⟨⟨s, band⟩, part, mem⟩ := List.mem_flatMap.1 mem
  exact (unbroken s (List.of_mem_zip part).1).strokes _ band stroke mem

theorem unbroken_cells (unbroken : ∀ s ∈ d, s.Unbroken) {c : Canvas}
    (drawn : (ofDiagram d).render d = .ok c) {x y : Nat} {ch : Char}
    (here : c.cell x y = some ch) : isLineBreak ch = false := by
  rw [cell_of_render drawn] at here
  obtain ⟨stroke, mem, ink⟩ := Ink.exists_of_ofStrokes here
  exact unbroken_strokes unbroken stroke mem ch (Stroke.mem_characters_of_ink ink)

end Layout

end SequenceChart
