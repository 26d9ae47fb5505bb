import SequenceChart.Proofs.DrawingOrder

/-!
What is read in the rows of a drawing. Characters are shown in a row when each of them stands in its
own column and a space is a blank cell; texts and frames show what they are made of. In the rows of
a statement there is the ink of the statement and, where that leaves a cell free, the lifelines.
-/

namespace SequenceChart

namespace Ink

/-- The characters are read in row `y` from column `x` on. A blank cell is read as a space. -/
def Shows (i : Ink) (x y : Nat) (chs : List Char) : Prop :=
  ∀ k ch, chs[k]? = some ch → i (x + k) y = if ch = ' ' then .none else some ch

variable {i j : Ink} {x y x' y' n w left right top bottom : Nat} {ch : Char} {chs chs' : List Char}

theorem chars_of_le (behind : x + chs.length ≤ x') : chars x y chs x' y' = .none := by
  rw [chars, List.getElem?_eq_none (by omega), Option.filter_none, ite_self]

theorem chars_of_row_ne (other : y' ≠ y) : chars x y chs x' y' = .none :=
  if_neg fun inside => other inside.1

theorem block_of_row_ne {t b : Nat} (other : y < t ∨ b < y) : block left right t b ch x y = .none :=
  if_neg (by omega)

theorem shows_iff_chars :
    Shows i x y chs ↔ ∀ x', x ≤ x' → x' < x + chs.length → i x' y = chars x y chs x' y := by
  have visible (ch : Char) : (if ch = ' ' then .none else some ch) =
      (some ch).filter (· ≠ ' ') := by
    by_cases blank : ch = ' ' <;> simp [Option.filter, blank]
  constructor
  · intro shown x' first last
    obtain ⟨k, rfl⟩ := Nat.exists_eq_add_of_le first
    have here : chs[k]? = some chs[k] := List.getElem?_eq_getElem (by omega)
    rw [shown k chs[k] here, visible, chars, if_pos ⟨rfl, first⟩, Nat.add_sub_cancel_left, here]
  · intro same k ch here
    obtain ⟨inside, _⟩ := List.getElem?_eq_some_iff.1 here
    rw [same (x + k) (by omega) (by omega), visible, chars, if_pos ⟨rfl, by omega⟩,
      Nat.add_sub_cancel_left, here]

/-- What is read in a row depends on the columns of the characters only. -/
theorem Shows.congr (shown : Shows j x y chs)
    (same : ∀ x', x ≤ x' → x' < x + chs.length → i x' y = j x' y) : Shows i x y chs := by
  rw [shows_iff_chars] at shown ⊢
  intro x' first last
  rw [same x' first last, shown x' first last]

theorem shows_cons : Shows i x y (ch :: chs) ↔
    i x y = (if ch = ' ' then .none else some ch) ∧ Shows i (x + 1) y chs := by
  constructor
  · intro shown
    refine ⟨shown 0 ch rfl, fun k other here => ?_⟩
    rw [Nat.add_assoc, Nat.add_comm 1 k]
    exact shown (k + 1) other here
  · rintro ⟨first, rest⟩ k other here
    cases k with
    | zero =>
        cases here
        exact first
    | succ k =>
        rw [← Nat.add_assoc, Nat.add_right_comm]
        exact rest k other here

theorem shows_append :
    Shows i x y (chs ++ chs') ↔ Shows i x y chs ∧ Shows i (x + chs.length) y chs' := by
  induction chs generalizing x with
  | nil => exact ⟨fun shown => ⟨nofun, shown⟩, fun shown => shown.2⟩
  | cons ch chs ih =>
      rw [List.cons_append, shows_cons, shows_cons, ih, List.length_cons, and_assoc,
        Nat.add_right_comm x 1, Nat.add_assoc x]

theorem shows_replicate : Shows i x y (List.replicate n ch) ↔
    ∀ k < n, i (x + k) y = if ch = ' ' then .none else some ch := by
  simp only [Shows, List.getElem?_replicate, Option.ite_none_right_eq_some, Option.some.injEq,
    and_imp]
  exact ⟨fun shown k inside => shown k ch inside rfl,
    fun same k other inside here => here ▸ same k inside⟩

/-! Rows of a frame that leaves room for `w` characters and a blank on either side of them. -/

/-- The upper or the lower edge of a frame, between two corners. -/
def edgeRow (left right : Char) (w : Nat) : List Char :=
  left :: (List.replicate (w + 2) Glyph.horizontal ++ [right])

/-- A line of text between the sides of a frame, filled up with blanks. -/
def framedRow (w : Nat) (line : List Char) : List Char :=
  Glyph.vertical :: ' ' :: (line.rightpad w ' ' ++ [' ', Glyph.vertical])

theorem length_edgeRow (left right : Char) (w : Nat) : (edgeRow left right w).length = w + 4 := by
  simp [edgeRow]

theorem length_framedRow (fits : chs.length ≤ w) : (framedRow w chs).length = w + 4 := by
  simp only [framedRow, List.length_cons, List.length_append, List.length_rightpad,
    List.length_nil]
  omega

theorem shows_edgeRow {l r : Char} (hl : l ≠ ' ') (hr : r ≠ ' ') (first : i x y = some l)
    (between : ∀ x', x < x' → x' < x + (w + 3) → i x' y = some Glyph.horizontal)
    (last : i (x + (w + 3)) y = some r) : Shows i x y (edgeRow l r w) := by
  have dashes : Shows i (x + 1) y (List.replicate (w + 2) Glyph.horizontal) :=
    shows_replicate.2 fun k inside => between (x + 1 + k) (by omega) (by omega)
  refine shows_cons.2 ⟨by rw [first, if_neg hl], shows_append.2 ⟨dashes, ?_⟩⟩
  rw [List.length_replicate, show x + 1 + (w + 2) = x + (w + 3) by omega]
  exact shows_cons.2 ⟨by rw [last, if_neg hr], nofun⟩

theorem frame_of_edge (wide : left < right) (high : top < bottom) (edge : y = top ∨ y = bottom) :
    frame left right top bottom x y =
      if x = left ∨ x = right then some Glyph.corner
      else if left < x ∧ x < right then some Glyph.horizontal
      else .none := by
  by_cases inside : left ≤ x ∧ x ≤ right
  · rw [frame, if_pos (by omega), if_neg (by omega), if_neg (by omega)]
    by_cases side : x = left ∨ x = right
    · rw [if_pos ⟨side, edge⟩, if_pos side]
    · rw [if_neg (fun both => side both.1), if_pos edge, if_neg side, if_pos (by omega)]
  · rw [frame, if_neg (by omega), if_neg (by omega), if_neg (by omega)]

theorem frame_of_side (wide : left < right) (between : top < y ∧ y < bottom) :
    frame left right top bottom x y =
      if x = left ∨ x = right then some Glyph.vertical else .none := by
  by_cases inside : left ≤ x ∧ x ≤ right
  · rw [frame, if_pos (by omega), if_neg (by omega), if_neg (by omega), if_neg (by omega),
      if_neg (by omega)]
  · rw [frame, if_neg (by omega), if_neg (by omega)]

theorem shows_frameEdge (high : top < bottom) (edge : y = top ∨ y = bottom)
    (same : ∀ x', x ≤ x' → x' ≤ x + (w + 3) → i x' y = frame x (x + (w + 3)) top bottom x' y) :
    Shows i x y (edgeRow Glyph.corner Glyph.corner w) := by
  refine shows_edgeRow (by decide) (by decide) ?_ (fun x' first last => ?_) ?_
  · rw [same x (by omega) (by omega), frame_of_edge (by omega) high edge, if_pos (.inl rfl)]
  · rw [same x' (by omega) (by omega), frame_of_edge (by omega) high edge, if_neg (by omega),
      if_pos (by omega)]
  · rw [same _ (by omega) (by omega), frame_of_edge (by omega) high edge, if_pos (.inr rfl)]

theorem shows_framedRow (fits : chs.length ≤ w) (inside : top < y ∧ y < bottom)
    (same : ∀ x', x ≤ x' → x' ≤ x + (w + 3) →
      i x' y = (chars (x + 2) y chs x' y).or (frame x (x + (w + 3)) top bottom x' y)) :
    Shows i x y (framedRow w chs) := by
  have between (x' : Nat) (first : x < x') (last : x' < x + (w + 3)) :
      i x' y = chars (x + 2) y chs x' y := by
    rw [same x' (by omega) (by omega), frame_of_side (by omega) inside, if_neg (by omega),
      Option.or_none]
  have blank (x' : Nat) (behind : x + 2 + chs.length ≤ x') (last : x' < x + (w + 3)) :
      i x' y = .none := by
    rw [between x' (by omega) last, chars_of_le behind]
  have line : Shows i (x + 2) y chs :=
    shows_iff_chars.2 fun x' left right => between x' (by omega) (by omega)
  have padded : Shows i (x + 2) y (chs.rightpad w ' ') :=
    shows_append.2 ⟨line, shows_replicate.2 fun k inside => blank _ (by omega) (by omega)⟩
  refine shows_cons.2 ⟨?_, shows_cons.2 ⟨?_, shows_append.2 ⟨padded, ?_⟩⟩⟩
  · rw [same x (by omega) (by omega), chars_of_lt (by omega), frame_of_side (by omega) inside,
      if_pos (.inl rfl)]
    rfl
  · rw [between (x + 1) (by omega) (by omega)]
    exact chars_of_lt (by omega)
  · rw [List.length_rightpad, Nat.max_eq_left fits]
    refine shows_cons.2 ⟨blank _ (by omega) (by omega), shows_cons.2 ⟨?_, nofun⟩⟩
    rw [show x + 1 + 1 + w + 1 = x + (w + 3) by omega, same _ (by omega) (by omega),
      chars_of_le (by omega), frame_of_side (by omega) inside, if_pos (.inr rfl)]
    rfl

end Ink

namespace Statement

variable {start : String → Nat} {top x y k : Nat} {text line : String}

/-- Below its first row a text shows line after line, and nothing else. -/
theorem ink_textStrokes (here : (textLines text)[k]? = some line) :
    Ink.ofStrokes (textStrokes start top text) x (top + k) =
      Ink.chars (start line) (top + k) line.toList x (top + k) := by
  have mem : (line, k) ∈ (textLines text).zipIdx := List.mem_zipIdx_iff_getElem?.2 here
  rw [textStrokes, List.map_eq_flatMap, Ink.ofStrokes_flatMap mem]
  · rfl
  · rintro ⟨other, k'⟩ mem' ch ink
    obtain ⟨stroke, single, ink⟩ := Ink.exists_of_ofStrokes ink
    cases List.mem_singleton.1 single
    have row := (Ink.bounds_of_chars ink).1
    obtain rfl : k = k' := by omega
    have there : (textLines text)[k]? = some other := List.mem_zipIdx_iff_getElem?.1 mem'
    rw [here] at there
    cases there
    exact ink

theorem textStrokes_of_outside (outside : y < top ∨ top + (textLines text).length ≤ y) :
    Ink.ofStrokes (textStrokes start top text) x y = none := by
  refine Ink.ofStrokes_eq_none_iff.2 fun stroke mem => ?_
  obtain ⟨⟨line, k⟩, place, rfl⟩ := List.mem_map.1 mem
  obtain ⟨inside, _⟩ := List.getElem?_eq_some_iff.1 (List.mem_zipIdx_iff_getElem?.1 place)
  exact Ink.chars_of_row_ne (by dsimp only at inside ⊢; omega)

end Statement

namespace Layout

/-- What a row shows in a column where nothing is drawn over the lifelines. -/
def lifelineInk (l : Layout) (x : Nat) : Option Char :=
  if ∃ column ∈ l.columns, column.lifeline = x then some Glyph.vertical else none

variable {d : Diagram} {i x y : Nat} {s : Statement} {band : Band} {c : Canvas} {chs : List Char}

/-- In the rows of a statement everything is its ink or a lifeline. -/
theorem cell_of_row (drawn : (ofDiagram d).render d = .ok c) (here : d[i]? = some s)
    (placed : (ofDiagram d).bands[i]? = some band) (row : band.top ≤ y ∧ y < band.bottom)
    (x : Nat) :
    c.cell x y =
      (Ink.ofStrokes (s.strokes (ofDiagram d) band) x y).or ((ofDiagram d).lifelineInk x) := by
  cases bandAt_of_getElem? here placed
  have high := headerRows_le_top d i s
  have low := bottom_lt_height here
  rw [cell_eq_or drawn, statementInk_of_row here row, ink_frameStrokes (by omega) (by omega)]
  rfl

/-- Where no lifeline passes, what the ink of a statement shows is read on the canvas. -/
theorem shows_of_row (drawn : (ofDiagram d).render d = .ok c) (here : d[i]? = some s)
    (placed : (ofDiagram d).bands[i]? = some band) (row : band.top ≤ y ∧ y < band.bottom)
    (free : ∀ x', x ≤ x' → x' < x + chs.length → (ofDiagram d).lifelineInk x' = none)
    (shown : (Ink.ofStrokes (s.strokes (ofDiagram d) band)).Shows x y chs) :
    Ink.Shows c.cell x y chs := by
  refine shown.congr fun x' first last => ?_
  rw [cell_of_row drawn here placed row, free x' first last, Option.or_none]

/-- A column without a lifeline is one that no participant stands in. -/
theorem lifelineInk_eq_none (free : ∀ k < d.participants.length, lifelineAt d k ≠ x) :
    (ofDiagram d).lifelineInk x = none := by
  refine if_neg ?_
  rintro ⟨column, mem, on⟩
  obtain ⟨k, name, there, rfl⟩ := mem_columns mem
  exact free k (List.getElem?_eq_some_iff.1 there).1 on

end Layout

end SequenceChart
