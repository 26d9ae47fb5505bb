import SequenceChart.Proofs.Shown
import SequenceChart.Proofs.Spacing

/-!
Messages in the finished drawing. A message to someone else is read between the lifelines of its
ends: its lines, which may stand over lifelines in between, and below them an arrow that points to
the receiver. A message to oneself is a loop to the right of the lifeline that ends before the next
box. All other cells of their rows are lifelines or blank.
-/

namespace SequenceChart

namespace Ink

/-- The characters are read in row `y` from column `x` on, over what a bare row shows: it is what
stands in all other columns, and where one of the characters is a space. -/
def ShowsOver (i : Ink) (bare : Nat → Option Char) (x y : Nat) (chs : List Char) : Prop :=
  (∀ k ch, chs[k]? = some ch → i (x + k) y = if ch = ' ' then bare (x + k) else some ch) ∧
    ∀ x', x' < x ∨ x + chs.length ≤ x' → i x' y = bare x'

variable {i : Ink} {bare : Nat → Option Char} {x y x' y' n : Nat} {ch : Char} {chs : List Char}

theorem showsOver_of_chars (same : ∀ x', i x' y = (chars x y chs x' y).or (bare x')) :
    i.ShowsOver bare x y chs := by
  constructor
  · intro k ch here
    rw [same, chars, if_pos ⟨rfl, Nat.le_add_right x k⟩, Nat.add_sub_cancel_left, here]
    by_cases blank : ch = ' ' <;> simp [Option.filter, blank]
  · intro x' outside
    rw [same]
    cases outside with
    | inl before => rw [chars_of_lt before, Option.none_or]
    | inr behind => rw [chars_of_le behind, Option.none_or]

theorem chars_replicate (visible : ch ≠ ' ') : chars x y (List.replicate n ch) x' y' =
    if y' = y ∧ x ≤ x' ∧ x' < x + n then some ch else .none := by
  by_cases inside : y' = y ∧ x ≤ x'
  · rw [chars, if_pos inside, List.getElem?_replicate]
    by_cases last : x' < x + n
    · rw [if_pos (by omega), if_pos ⟨inside.1, inside.2, last⟩]
      simp [Option.filter, visible]
    · rw [if_neg (by omega), if_neg (fun all => last all.2.2), Option.filter_none]
  · rw [chars, if_neg inside, if_neg (fun all => inside ⟨all.1, all.2.1⟩)]

end Ink

/-- A message between the lifelines in columns `x` and `y` on a canvas, when its lines start where
`start` says, the tip of its arrow stands in column `tip` and rows without a drawing look like
`bare`. -/
structure Canvas.HoldsMessage (c : Canvas) (bare : Nat → Option Char) (band : Band) (text : String)
    (x y : Nat) (start : String → Nat) (tip : Nat) (point : Char) : Prop where
  rows : band.bottom = band.top + (textLines text).length + 2
  upper : ∀ x', c.cell x' band.top = bare x'
  lines : ∀ k line, (textLines text)[k]? = some line →
    min x y < start line ∧ start line + line.length < max x y ∧
      Ink.ShowsOver c.cell bare (start line) (band.top + 1 + k) line.toList
  arrow : ∀ x', min x y < x' → x' < max x y →
    c.cell x' (band.bottom - 1) = some (if x' = tip then point else Glyph.horizontal)
  beside : ∀ x', x' ≤ min x y ∨ max x y ≤ x' → c.cell x' (band.bottom - 1) = bare x'

/-- A message to oneself at the lifeline in column `x` on a canvas, when rows without a drawing look
like `bare`. -/
structure Canvas.HoldsLoop (c : Canvas) (bare : Nat → Option Char) (band : Band) (text : String)
    (x : Nat) : Prop where
  rows : band.bottom = band.top + (textLines text).length + 4
  /-- No lifeline passes between the loop and its own. -/
  alone : ∀ x', x < x' → x' ≤ x + 2 + longestLine text → bare x' = none
  upper : ∀ x', c.cell x' band.top = bare x'
  lines : ∀ k line, (textLines text)[k]? = some line →
    Ink.ShowsOver c.cell bare (x + 2) (band.top + 1 + k) line.toList
  leaving : Ink.ShowsOver c.cell bare (x + 1) (band.top + 1 + (textLines text).length)
    (List.replicate (longestLine text + 2) Glyph.horizontal)
  turning : Ink.ShowsOver c.cell bare (x + 2 + longestLine text)
    (band.top + 2 + (textLines text).length) [Glyph.vertical]
  returning : Ink.ShowsOver c.cell bare (x + 1) (band.bottom - 1)
    (Glyph.arrowLeft :: List.replicate (longestLine text + 1) Glyph.horizontal)

namespace Statement

/-! The rows of a message, and those of a message to oneself. -/

section

variable {start : String → Nat} {top left right tip arrow x k : Nat} {point : Char}
  {text line : String}

theorem ink_above_message (above : k < top) (below : k < arrow) :
    Ink.ofStrokes (textStrokes start top text ++ [.hline left right arrow Glyph.horizontal,
      .glyph tip arrow point]) x k = none := by
  simp (disch := omega) only [Ink.ofStrokes_append, Ink.ofStrokes, Ink.overlay, Ink.none,
    Stroke.ink, textStrokes_of_outside, Ink.block_of_row_ne, Option.or_none]

theorem ink_of_messageLine (here : (textLines text)[k]? = some line) (above : top + k < arrow) :
    Ink.ofStrokes (textStrokes start top text ++ [.hline left right arrow Glyph.horizontal,
      .glyph tip arrow point]) x (top + k) =
      Ink.chars (start line) (top + k) line.toList x (top + k) := by
  simp (disch := omega) only [Ink.ofStrokes_append, Ink.ofStrokes, Ink.overlay, Ink.none,
    Stroke.ink, ink_textStrokes here, Ink.block_of_row_ne, Option.none_or]

theorem ink_of_arrow (below : top + (textLines text).length ≤ arrow) (ordered : left ≤ right)
    (inside : left ≤ tip ∧ tip ≤ right) :
    Ink.ofStrokes (textStrokes start top text ++ [.hline left right arrow Glyph.horizontal,
      .glyph tip arrow point]) x arrow =
      if left ≤ x ∧ x ≤ right then some (if x = tip then point else Glyph.horizontal)
      else none := by
  rw [Ink.ofStrokes_append, Ink.overlay, textStrokes_of_outside (.inr below), Option.or_none]
  simp only [Ink.ofStrokes, Ink.overlay, Ink.none, Stroke.ink, Nat.min_eq_left ordered,
    Nat.max_eq_right ordered, Option.none_or]
  by_cases on : x = tip
  · rw [Ink.block_of_bounds _ (by omega), if_pos (by omega), if_pos on, Option.some_or]
  · rw [Ink.block, if_neg (by omega), if_neg on, Option.none_or, Ink.block]
    exact if_congr (by omega) rfl rfl

end

section

variable {band : Band} {x x' y k : Nat} {text line : String}

theorem ink_selfStrokes (x : Nat) (band : Band) (text : String) :
    Ink.ofStrokes (selfStrokes x band text) =
      .overlay (.block (x + 1) (x + 1) (band.top + 3 + (textLines text).length)
          (band.top + 3 + (textLines text).length) Glyph.arrowLeft)
        (.overlay (.block (x + 1) (x + 2 + longestLine text)
            (band.top + 3 + (textLines text).length) (band.top + 3 + (textLines text).length)
            Glyph.horizontal)
          (.overlay (.block (x + 2 + longestLine text) (x + 2 + longestLine text)
              (band.top + 2 + (textLines text).length) (band.top + 2 + (textLines text).length)
              Glyph.vertical)
            (.overlay (.block (x + 1) (x + 2 + longestLine text)
                (band.top + 1 + (textLines text).length) (band.top + 1 + (textLines text).length)
                Glyph.horizontal)
              (.ofStrokes (textStrokes (fun _ => x + 2) (band.top + 1) text))))) := by
  have turn : x + messageWidth text = x + 2 + longestLine text := by
    rw [messageWidth, messageMargin]
    omega
  have ordered : x + 1 ≤ x + 2 + longestLine text := by omega
  have turning : band.top + 1 + (textLines text).length + 1 =
      band.top + 2 + (textLines text).length := by omega
  have returning : band.top + 1 + (textLines text).length + 2 =
      band.top + 3 + (textLines text).length := by omega
  funext x' y
  simp only [selfStrokes, turn, turning, returning, Ink.ofStrokes_append, Ink.ofStrokes,
    Ink.overlay, Ink.none, Stroke.ink, Nat.min_eq_left ordered, Nat.max_eq_right ordered,
    Option.none_or, Option.or_assoc]

theorem ink_of_loopTop : Ink.ofStrokes (selfStrokes x band text) x' band.top = none := by
  simp (disch := omega) only [ink_selfStrokes, Ink.overlay, textStrokes_of_outside,
    Ink.block_of_row_ne, Option.or_none]

theorem ink_of_loopLine (here : (textLines text)[k]? = some line) :
    Ink.ofStrokes (selfStrokes x band text) x' (band.top + 1 + k) =
      Ink.chars (x + 2) (band.top + 1 + k) line.toList x' (band.top + 1 + k) := by
  obtain ⟨_, _⟩ := List.getElem?_eq_some_iff.1 here
  simp (disch := omega) only [ink_selfStrokes, Ink.overlay, ink_textStrokes here,
    Ink.block_of_row_ne, Option.none_or]

theorem ink_of_leaving :
    Ink.ofStrokes (selfStrokes x band text) x' (band.top + 1 + (textLines text).length) =
      Ink.chars (x + 1) (band.top + 1 + (textLines text).length)
        (List.replicate (longestLine text + 2) Glyph.horizontal) x'
        (band.top + 1 + (textLines text).length) := by
  simp (disch := omega) only [ink_selfStrokes, Ink.overlay, textStrokes_of_outside,
    Ink.block_of_row_ne, Option.or_none]
  rw [Ink.chars_replicate (by decide), Ink.block]
  exact if_congr (by omega) rfl rfl

theorem ink_of_turning :
    Ink.ofStrokes (selfStrokes x band text) x' (band.top + 2 + (textLines text).length) =
      Ink.chars (x + 2 + longestLine text) (band.top + 2 + (textLines text).length)
        [Glyph.vertical] x' (band.top + 2 + (textLines text).length) := by
  simp (disch := omega) only [ink_selfStrokes, Ink.overlay, textStrokes_of_outside,
    Ink.block_of_row_ne, Option.none_or, Option.or_none]
  rw [← List.replicate_one, Ink.chars_replicate (by decide), Ink.block]
  exact if_congr (by omega) rfl rfl

/-- The arrow comes back over the end of its line. -/
theorem ink_of_returning :
    Ink.ofStrokes (selfStrokes x band text) x' (band.top + 3 + (textLines text).length) =
      Ink.chars (x + 1) (band.top + 3 + (textLines text).length)
        (Glyph.arrowLeft :: List.replicate (longestLine text + 1) Glyph.horizontal) x'
        (band.top + 3 + (textLines text).length) := by
  simp (disch := omega) only [ink_selfStrokes, Ink.overlay, textStrokes_of_outside,
    Ink.block_of_row_ne, Option.or_none]
  rw [← Ink.chars_cons (by decide), Ink.overlay, Ink.chars_replicate (by decide)]
  by_cases first : x' = x + 1
  · rw [Ink.block_of_bounds _ (by omega), if_neg (by omega), Option.some_or, Option.none_or]
  · rw [Ink.block, if_neg (by omega), Option.none_or, Option.or_none, Ink.block]
    exact if_congr (by omega) rfl rfl

end

end Statement

namespace Placement

variable {a b : Nat}

theorem leftToRight_iff : (message a b).direction? = some .leftToRight ↔ a < b := by
  rw [direction?]
  rcases Nat.lt_trichotomy a b with before | rfl | behind
  · simp [before, Nat.ne_of_lt before]
  · simp
  · simp [Nat.ne_of_gt behind, Nat.not_lt_of_gt behind]

theorem rightToLeft_iff : (message a b).direction? = some .rightToLeft ↔ b < a := by
  rw [direction?]
  rcases Nat.lt_trichotomy a b with before | rfl | behind
  · simp [before, Nat.ne_of_lt before, Nat.le_of_lt before]
  · simp
  · simp [behind, Nat.ne_of_gt behind, Nat.not_lt_of_gt behind]

end Placement

namespace Layout

variable {d : Diagram} {i x y : Nat} {s : Statement} {sender receiver name text : String}
  {band : Band} {c : Canvas} {chs : List Char}

/-- In a row where the ink of a statement is a run of characters, the canvas shows the lifelines
with these characters over them. -/
theorem showsOver_of_row (drawn : (ofDiagram d).render d = .ok c) (here : d[i]? = some s)
    (placed : (ofDiagram d).bands[i]? = some band) (row : band.top ≤ y ∧ y < band.bottom)
    (same : ∀ x', Ink.ofStrokes (s.strokes (ofDiagram d) band) x' y = Ink.chars x y chs x' y) :
    Ink.ShowsOver c.cell (ofDiagram d).lifelineInk x y chs := by
  refine Ink.showsOver_of_chars fun x' => ?_
  rw [cell_of_row drawn here placed row, same]

theorem holdsMessage_of_strokes (drawn : (ofDiagram d).render d = .ok c)
    (here : d[i]? = some (.message sender receiver text))
    (placed : (ofDiagram d).bands[i]? = some band)
    (rows : band.bottom = band.top + messageRows text)
    {start : String → Nat} {left right tip : Nat} {point : Char}
    (same : (Statement.message sender receiver text).strokes (ofDiagram d) band =
      Statement.textStrokes start (band.top + 1) text ++
        [.hline left right (band.bottom - 1) Glyph.horizontal, .glyph tip (band.bottom - 1) point])
    (ends : left = min x y + 1 ∧ right + 1 = max x y) (inside : left ≤ tip ∧ tip ≤ right)
    (room : ∀ line ∈ textLines text,
      min x y < start line ∧ start line + line.length < max x y) :
    c.HoldsMessage (ofDiagram d).lifelineInk band text x y start tip point := by
  have height : messageRows text = (textLines text).length + 2 := rfl
  have arrow (x' : Nat) : c.cell x' (band.bottom - 1) =
      (if left ≤ x' ∧ x' ≤ right then some (if x' = tip then point else Glyph.horizontal)
        else none).or ((ofDiagram d).lifelineInk x') := by
    rw [cell_of_row drawn here placed (by omega), same,
      Statement.ink_of_arrow (by omega) (by omega) inside]
  constructor
  case rows => exact rows
  case upper =>
    intro x'
    rw [cell_of_row drawn here placed (by omega), same,
      Statement.ink_above_message (by omega) (by omega), Option.none_or]
  case lines =>
    intro k line at_k
    obtain ⟨_, _⟩ := List.getElem?_eq_some_iff.1 at_k
    obtain ⟨first, last⟩ := room line (List.mem_of_getElem? at_k)
    refine ⟨first, last, showsOver_of_row drawn here placed (by omega) fun x' => ?_⟩
    rw [same, Statement.ink_of_messageLine at_k (by omega)]
  case arrow =>
    intro x' first last
    rw [arrow, if_pos (by omega), Option.some_or]
  case beside =>
    intro x' outside
    rw [arrow, if_neg (by omega), Option.none_or]

/-- Every message between two participants is found between their lifelines, whatever surrounds it.
Its lines start behind the lifeline of a sender on the left and end before that of a sender on the
right, and the arrow points to the receiver as the placement says. -/
theorem message_drawn (drawn : (ofDiagram d).render d = .ok c)
    (here : d[i]? = some (.message sender receiver text)) (apart : sender ≠ receiver) :
    ∃ (a b x y : Nat) (band : Band), (ofDiagram d).indexOf? sender = some a ∧
      (ofDiagram d).indexOf? receiver = some b ∧ (ofDiagram d).lifelineOf? sender = some x ∧
      (ofDiagram d).lifelineOf? receiver = some y ∧ (ofDiagram d).bands[i]? = some band ∧ a ≠ b ∧
      (band.placement.direction? = some .leftToRight ↔ a < b) ∧
      (band.placement.direction? = some .rightToLeft ↔ b < a) ∧
      (a < b → x < y ∧ c.HoldsMessage (ofDiagram d).lifelineInk band text x y
        (fun _ => x + 2) (y - 1) Glyph.arrowRight) ∧
      (b < a → y < x ∧ c.HoldsMessage (ofDiagram d).lifelineInk band text x y
        (fun line => x - 1 - line.length) (y + 1) Glyph.arrowLeft) := by
  have mem := List.mem_of_getElem? here
  have width : messageWidth text = longestLine text + 2 := rfl
  obtain ⟨band, placed, placement, rows⟩ := (complete_ofDiagram d).banded i _ here
  rw [Statement.rows, if_neg apart] at rows
  have ends : band.placement = .message (d.participants.idxOf sender)
      (d.participants.idxOf receiver) := placement
  have apart_index : d.participants.idxOf sender ≠ d.participants.idxOf receiver :=
    fun same => apart ((List.idxOf_inj (sender_mem mem)).1 same)
  refine ⟨_, _, _, _, band, indexOf?_eq (sender_mem mem), indexOf?_eq (receiver_mem mem),
    lifelineOf?_eq (sender_mem mem), lifelineOf?_eq (receiver_mem mem), placed, apart_index,
    ?_, ?_, fun before => ?_, fun behind => ?_⟩
  · rw [ends, Placement.leftToRight_iff]
  · rw [ends, Placement.rightToLeft_iff]
  · have strokes := strokes_rightward mem before band
    have room := clear_of_message mem before (.inl ⟨rfl, rfl⟩)
    refine ⟨by omega, holdsMessage_of_strokes drawn here placed rows strokes (by omega) (by omega)
      fun line part => ?_⟩
    have := length_le_longestLine part
    omega
  · have strokes := strokes_leftward mem behind band
    have room := clear_of_message mem behind (.inr ⟨rfl, rfl⟩)
    refine ⟨by omega, holdsMessage_of_strokes drawn here placed rows strokes (by omega) (by omega)
      fun line part => ?_⟩
    have := length_le_longestLine part
    omega

/-- A message to the left whose longer line stands over the lifeline that it passes. -/
theorem message_drawn_leftward :
    let d : Diagram := [.declare ["a", "b", "c"], .message "c" "a" "on it\nnow"]
    ∃ c, (ofDiagram d).render d = .ok c ∧ c.cell 8 4 = some 'o' ∧ c.cell 10 4 = none ∧
      c.cell 8 5 = some '|' ∧ c.cell 10 5 = some 'n' ∧ c.cell 2 6 = some '|' ∧
      c.cell 3 6 = some '<' ∧ c.cell 8 6 = some '-' ∧ c.cell 13 6 = some '-' := by
  intro d
  obtain ⟨c, drawn, _⟩ := render_of_small d (by decide)
  obtain ⟨a, b, x, y, band, sender, receiver, from_x, to_y, placed, _, _, _, _, leftward⟩ :=
    message_drawn drawn (i := 1) rfl (by decide)
  have at_c : (ofDiagram d).indexOf? "c" = some 2 := by decide +kernel
  have at_a : (ofDiagram d).indexOf? "a" = some 0 := by decide +kernel
  have lifeline_c : (ofDiagram d).lifelineOf? "c" = some 14 := by decide +kernel
  have lifeline_a : (ofDiagram d).lifelineOf? "a" = some 2 := by decide +kernel
  have below : (ofDiagram d).bands[1]? = some ⟨3, 7, .message 2 0⟩ := by decide +kernel
  have bare : (ofDiagram d).lifelineInk 2 = some '|' ∧ (ofDiagram d).lifelineInk 8 = some '|' ∧
      (ofDiagram d).lifelineInk 10 = none := by decide +kernel
  cases at_c.symm.trans sender
  cases at_a.symm.trans receiver
  cases lifeline_c.symm.trans from_x
  cases lifeline_a.symm.trans to_y
  cases below.symm.trans placed
  obtain ⟨_, message⟩ := leftward (by decide)
  obtain ⟨_, _, upper⟩ := message.lines 0 "on it" rfl
  obtain ⟨_, _, lower⟩ := message.lines 1 "now" rfl
  rw [show "on it".length = 5 by decide] at upper
  rw [show "now".length = 3 by decide] at lower
  have gap := upper.1 2 ' ' rfl
  rw [if_pos rfl] at gap
  exact ⟨c, drawn, upper.1 0 'o' rfl, gap.trans bare.2.2,
    (lower.2 8 (by decide)).trans bare.2.1, lower.1 0 'n' rfl,
    (message.beside 2 (by decide)).trans bare.1, message.arrow 3 (by decide) (by decide),
    message.arrow 8 (by decide) (by decide), message.arrow 13 (by decide) (by decide)⟩

/-- A loop stays clear of every box and lifeline to its right. -/
theorem lifelineInk_of_loop (mem : .message name name text ∈ d)
    (behind : lifelineAt d (d.participants.idxOf name) < x)
    (inside : x ≤ lifelineAt d (d.participants.idxOf name) + 2 + longestLine text) :
    (ofDiagram d).lifelineInk x = none := by
  have width : messageWidth text = longestLine text + 2 := rfl
  have self_here := List.idxOf_lt_length_of_mem (sender_mem mem)
  have room := clear_of_selfMessage mem rfl rfl
  refine lifelineInk_eq_none fun k here on => ?_
  rcases Nat.lt_or_ge (d.participants.idxOf name) k with right | left
  · have := lifelineAt_le (show d.participants.idxOf name + 1 ≤ k from right) here
    omega
  · have := lifelineAt_le left self_here
    omega

/-- Every message to oneself is found beside its lifeline, whatever surrounds it, and it ends before
the box of the next participant. -/
theorem selfMessage_drawn (drawn : (ofDiagram d).render d = .ok c)
    (here : d[i]? = some (.message name name text)) :
    ∃ (a x : Nat) (band : Band), (ofDiagram d).indexOf? name = some a ∧
      (ofDiagram d).lifelineOf? name = some x ∧ (ofDiagram d).bands[i]? = some band ∧
      c.HoldsLoop (ofDiagram d).lifelineInk band text x ∧
      ∀ next, (ofDiagram d).columns[a + 1]? = some next →
        x + 2 + longestLine text < next.boxStart := by
  have mem := List.mem_of_getElem? here
  have width : messageWidth text = longestLine text + 2 := rfl
  have height : selfMessageRows text = (textLines text).length + 4 := rfl
  obtain ⟨band, placed, _, rows⟩ := (complete_ofDiagram d).banded i _ here
  rw [Statement.rows, if_pos rfl] at rows
  have strokes := strokes_selfMessage mem band
  have last : band.bottom - 1 = band.top + 3 + (textLines text).length := by omega
  refine ⟨_, _, band, indexOf?_eq (sender_mem mem), lifelineOf?_eq (sender_mem mem), placed, ?_, ?_⟩
  · constructor
    case rows => exact rows
    case alone => exact fun x' => lifelineInk_of_loop mem
    case upper =>
      intro x'
      rw [cell_of_row drawn here placed (by omega), strokes, Statement.ink_of_loopTop,
        Option.none_or]
    case lines =>
      intro k line at_k
      obtain ⟨_, _⟩ := List.getElem?_eq_some_iff.1 at_k
      refine showsOver_of_row drawn here placed (by omega) fun x' => ?_
      rw [strokes, Statement.ink_of_loopLine at_k]
    case leaving =>
      refine showsOver_of_row drawn here placed (by omega) fun x' => ?_
      rw [strokes, Statement.ink_of_leaving]
    case turning =>
      refine showsOver_of_row drawn here placed (by omega) fun x' => ?_
      rw [strokes, Statement.ink_of_turning]
    case returning =>
      rw [last]
      refine showsOver_of_row drawn here placed (by omega) fun x' => ?_
      rw [strokes, Statement.ink_of_returning]
  · intro next there
    obtain ⟨other, named, rfl⟩ := columns_getElem?_iff.1 there
    have room := clear_of_selfMessage mem rfl rfl
    rw [halfAt_eq named] at room
    simp only [Column.boxStart, columnOf]
    omega

/-- A message of two lines to oneself, next to the box of another participant. -/
theorem selfMessage_drawn_twoLines :
    let d : Diagram := [.declare ["a", "b"], .message "a" "a" "hi\nyou"]
    ∃ c, (ofDiagram d).render d = .ok c ∧ c.cell 4 4 = some 'h' ∧ c.cell 10 4 = some '|' ∧
      c.cell 6 5 = some 'u' ∧ c.cell 3 6 = some '-' ∧ c.cell 7 6 = some '-' ∧
      c.cell 6 7 = none ∧ c.cell 7 7 = some '|' ∧ c.cell 3 8 = some '<' ∧ c.cell 7 8 = some '-' ∧
      ∃ next, (ofDiagram d).columns[1]? = some next ∧ 7 < next.boxStart := by
  intro d
  obtain ⟨c, drawn, _⟩ := render_of_small d (by decide)
  obtain ⟨a, x, band, index, lifeline, placed, loop, next⟩ := selfMessage_drawn drawn (i := 1) rfl
  have at_a : (ofDiagram d).indexOf? "a" = some 0 := by decide +kernel
  have lifeline_a : (ofDiagram d).lifelineOf? "a" = some 2 := by decide +kernel
  have below : (ofDiagram d).bands[1]? = some ⟨3, 9, .message 0 0⟩ := by decide +kernel
  have bare : (ofDiagram d).lifelineInk 6 = none ∧ (ofDiagram d).lifelineInk 10 = some '|' := by
    decide +kernel
  obtain ⟨b, behind⟩ : ∃ b, (ofDiagram d).columns[1]? = some b :=
    Option.isSome_iff_exists.1 (by decide +kernel)
  have widest : longestLine "hi\nyou" = 3 := by decide
  have count : (textLines "hi\nyou").length = 2 := rfl
  cases at_a.symm.trans index
  cases lifeline_a.symm.trans lifeline
  cases below.symm.trans placed
  have turning := loop.turning
  have returning := loop.returning
  have leaving := loop.leaving
  rw [widest, count] at turning leaving
  rw [widest] at returning next
  exact ⟨c, drawn, (loop.lines 0 "hi" rfl).1 0 'h' rfl,
    ((loop.lines 0 "hi" rfl).2 10 (by decide)).trans bare.2, (loop.lines 1 "you" rfl).1 2 'u' rfl,
    leaving.1 0 '-' rfl, leaving.1 4 '-' rfl, (turning.2 6 (by decide)).trans bare.1,
    turning.1 0 '|' rfl, returning.1 0 '<' rfl, returning.1 4 '-' rfl, b, behind, next b behind⟩

end Layout

end SequenceChart
