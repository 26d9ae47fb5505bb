import SequenceChart.Proofs.Shown

/-!
Notes in the finished drawing. A note is a frame around its lines, with the upper corner that is
nearer to the lifeline folded and a leader to the lifeline in the row below. Its frame lies between
two lifelines, so none of them shows through, and nothing else is drawn in its rows.
-/

namespace SequenceChart

namespace Statement

/-- The upper edge of a note. -/
def noteEdge (w : Nat) : Side → List Char
  | .left => Ink.edgeRow Glyph.corner Glyph.foldLeft w
  | .right => Ink.edgeRow Glyph.foldRight Glyph.corner w

/-- A note by the column that its frame starts in, the column of the corner that is folded and that
of the leader. -/
def framedStrokes (start corner leader : Nat) (fold : Char) (band : Band) (text : String) :
    List Stroke :=
  [.frame start band.top (start + noteWidth text - 1) (band.bottom - 1),
    .glyph corner band.top fold] ++
    textStrokes (fun _ => start + 2) (band.top + 1) text ++
    [.glyph leader (min (band.top + 1) (band.bottom - 1)) Glyph.horizontal]

theorem noteStrokes_left (x : Nat) (band : Band) (text : String) :
    noteStrokes .left x band text =
      framedStrokes (x - 1 - noteWidth text) (x - 1 - noteWidth text + (longestLine text + 3))
        (x - 1) Glyph.foldLeft band text := by
  have corner : x - 1 - noteWidth text + noteWidth text - 1 =
      x - 1 - noteWidth text + (longestLine text + 3) := by
    rw [noteWidth, noteMargin]
    omega
  rw [← corner]
  rfl

theorem noteStrokes_right (x : Nat) (band : Band) (text : String) :
    noteStrokes .right x band text =
      framedStrokes (x + 2) (x + 2) (x + 1) Glyph.foldRight band text :=
  rfl

section

variable {start corner leader x y k : Nat} {fold : Char} {band : Band} {text line : String}
  (rows : band.bottom = band.top + noteRows text)

include rows

theorem ink_framedStrokes :
    Ink.ofStrokes (framedStrokes start corner leader fold band text) =
      .overlay (.block leader leader (band.top + 1) (band.top + 1) Glyph.horizontal)
        (.overlay (.ofStrokes (textStrokes (fun _ => start + 2) (band.top + 1) text))
          (.overlay (.block corner corner band.top band.top fold)
            (.frame start (start + (longestLine text + 3)) band.top (band.bottom - 1)))) := by
  have width : noteWidth text = longestLine text + 4 := rfl
  simp only [noteRows] at rows
  have stop : start + noteWidth text - 1 = start + (longestLine text + 3) := by omega
  have second : min (band.top + 1) (band.bottom - 1) = band.top + 1 := by omega
  have below : band.top ≤ band.bottom - 1 := by omega
  funext x y
  simp only [framedStrokes, stop, second, Ink.ofStrokes_append, Ink.ofStrokes, Ink.overlay,
    Ink.none, Stroke.ink, Nat.min_eq_left below, Nat.max_eq_right below,
    Nat.min_eq_left (Nat.le_add_right start _), Nat.max_eq_right (Nat.le_add_right start _),
    Option.none_or]

/-- In the upper row there are the frame and the fold. -/
theorem ink_of_upperEdge (first : start ≤ x) (last : x ≤ start + (longestLine text + 3)) :
    Ink.ofStrokes (framedStrokes start corner leader fold band text) x band.top =
      if x = corner then some fold
      else if x = start ∨ x = start + (longestLine text + 3) then some Glyph.corner
      else some Glyph.horizontal := by
  simp only [noteRows] at rows
  rw [ink_framedStrokes rows, Ink.overlay, Ink.block, if_neg (by omega), Option.none_or,
    Ink.overlay, textStrokes_of_outside (.inl (Nat.lt_succ_self _)), Option.none_or, Ink.overlay,
    Ink.frame_of_edge (by omega) (by omega) (.inl rfl)]
  by_cases folded : x = corner
  · rw [Ink.block, if_pos (by omega), if_pos folded, Option.some_or]
  · rw [Ink.block, if_neg (by omega), if_neg folded, Option.none_or]
    by_cases side : x = start ∨ x = start + (longestLine text + 3)
    · rw [if_pos side, if_pos side]
    · rw [if_neg side, if_neg side, if_pos (by omega)]

/-- Below the upper row the leader does not meet the frame. -/
theorem ink_below_upperEdge
    (apart : leader < start ∨ start + (longestLine text + 3) < leader) (below : band.top < y)
    (first : start ≤ x) (last : x ≤ start + (longestLine text + 3)) :
    Ink.ofStrokes (framedStrokes start corner leader fold band text) x y =
      (Ink.ofStrokes (textStrokes (fun _ => start + 2) (band.top + 1) text) x y).or
        (Ink.frame start (start + (longestLine text + 3)) band.top (band.bottom - 1) x y) := by
  rw [ink_framedStrokes rows, Ink.overlay, Ink.block, if_neg (by omega), Option.none_or,
    Ink.overlay, Ink.overlay, Ink.block, if_neg (by omega), Option.none_or]

theorem ink_of_lowerEdge
    (apart : leader < start ∨ start + (longestLine text + 3) < leader)
    (first : start ≤ x) (last : x ≤ start + (longestLine text + 3)) :
    Ink.ofStrokes (framedStrokes start corner leader fold band text) x (band.bottom - 1) =
      Ink.frame start (start + (longestLine text + 3)) band.top (band.bottom - 1) x
        (band.bottom - 1) := by
  have height : noteRows text = (textLines text).length + 2 := rfl
  rw [ink_below_upperEdge rows apart (by omega) first last,
    textStrokes_of_outside (.inr (by omega)), Option.none_or]

theorem shows_upperEdge_left (visible : fold ≠ ' ') :
    (Ink.ofStrokes
      (framedStrokes start (start + (longestLine text + 3)) leader fold band text)).Shows
      start band.top (Ink.edgeRow Glyph.corner fold (longestLine text)) := by
  refine Ink.shows_edgeRow (by decide) visible ?_ (fun x first last => ?_) ?_
  · rw [ink_of_upperEdge rows (Nat.le_refl _) (by omega), if_neg (by omega), if_pos (.inl rfl)]
  · rw [ink_of_upperEdge rows (by omega) (by omega), if_neg (by omega), if_neg (by omega)]
  · rw [ink_of_upperEdge rows (by omega) (Nat.le_refl _), if_pos rfl]

theorem shows_upperEdge_right (visible : fold ≠ ' ') :
    (Ink.ofStrokes (framedStrokes start start leader fold band text)).Shows
      start band.top (Ink.edgeRow fold Glyph.corner (longestLine text)) := by
  refine Ink.shows_edgeRow visible (by decide) ?_ (fun x first last => ?_) ?_
  · rw [ink_of_upperEdge rows (Nat.le_refl _) (by omega), if_pos rfl]
  · rw [ink_of_upperEdge rows (by omega) (by omega), if_neg (by omega), if_neg (by omega)]
  · rw [ink_of_upperEdge rows (by omega) (Nat.le_refl _), if_neg (by omega), if_pos (.inr rfl)]

theorem shows_framedLine
    (apart : leader < start ∨ start + (longestLine text + 3) < leader)
    (here : (textLines text)[k]? = some line) :
    (Ink.ofStrokes (framedStrokes start corner leader fold band text)).Shows start
      (band.top + 1 + k) (Ink.framedRow (longestLine text) line.toList) := by
  obtain ⟨inside, _⟩ := List.getElem?_eq_some_iff.1 here
  have fits := length_le_longestLine (List.mem_of_getElem? here)
  rw [← String.length_toList] at fits
  have height : noteRows text = (textLines text).length + 2 := rfl
  have between : band.top < band.top + 1 + k ∧ band.top + 1 + k < band.bottom - 1 := by omega
  refine Ink.shows_framedRow fits between fun x first last => ?_
  rw [ink_below_upperEdge rows apart between.1 first last, ink_textStrokes here]

theorem shows_lowerEdge
    (apart : leader < start ∨ start + (longestLine text + 3) < leader) :
    (Ink.ofStrokes (framedStrokes start corner leader fold band text)).Shows start
      (band.bottom - 1) (Ink.edgeRow Glyph.corner Glyph.corner (longestLine text)) := by
  have high : band.top < band.bottom - 1 := by
    simp only [noteRows] at rows
    omega
  exact Ink.shows_frameEdge high (.inr rfl) fun x => ink_of_lowerEdge rows apart

theorem ink_of_leader :
    Ink.ofStrokes (framedStrokes start corner leader fold band text) leader (band.top + 1) =
      some Glyph.horizontal := by
  rw [ink_framedStrokes rows, Ink.overlay, Ink.block_of_bounds _ (by omega), Option.some_or]

theorem framedStrokes_of_outside
    (corner_inside : start ≤ corner ∧ corner ≤ start + (longestLine text + 3))
    (outside : x < start ∨ start + (longestLine text + 3) < x)
    (no_leader : ¬ (x = leader ∧ y = band.top + 1)) :
    Ink.ofStrokes (framedStrokes start corner leader fold band text) x y = none := by
  have lines : ∀ s ∈ textStrokes (fun _ => start + 2) (band.top + 1) text,
      s.Inside start (start + (longestLine text + 3)) (band.top + 1) (band.bottom - 1) := by
    refine inside_textStrokes (fun line mem => ?_) (Nat.le_refl _) (by rw [rows, noteRows]; omega)
    have := length_le_longestLine mem
    omega
  have no_line : Ink.ofStrokes (textStrokes (fun _ => start + 2) (band.top + 1) text) x y =
      none := by
    cases ink : Ink.ofStrokes (textStrokes (fun _ => start + 2) (band.top + 1) text) x y with
    | none => rfl
    | some ch =>
        have := Ink.bounds_of_inside lines ink
        omega
  rw [ink_framedStrokes rows, Ink.overlay, Ink.block, if_neg (by omega), Ink.overlay, no_line,
    Ink.overlay, Ink.block, if_neg (by omega), Ink.frame, if_neg (by omega)]
  rfl

end

end Statement

/-- A note on a canvas: all that is read in the rows of its band, when the frame starts in column
`start` and rows without a drawing look like `bare`. -/
structure Canvas.HoldsNote (c : Canvas) (bare : Nat → Option Char) (band : Band) (text : String)
    (upperEdge : List Char) (start leader : Nat) : Prop where
  rows : band.bottom = band.top + (textLines text).length + 2
  upper : Ink.Shows c.cell start band.top upperEdge
  lines : ∀ k line, (textLines text)[k]? = some line →
    Ink.Shows c.cell start (band.top + 1 + k) (Ink.framedRow (longestLine text) line.toList)
  lower : Ink.Shows c.cell start (band.bottom - 1)
    (Ink.edgeRow Glyph.corner Glyph.corner (longestLine text))
  joined : c.cell leader (band.top + 1) = some Glyph.horizontal
  rest : ∀ x y, band.top ≤ y → y < band.bottom →
    x < start ∨ start + (longestLine text + 4) ≤ x → ¬ (x = leader ∧ y = band.top + 1) →
      c.cell x y = bare x

namespace Layout

variable {d : Diagram} {i start corner leader : Nat} {fold : Char} {side : Side}
  {name text : String} {band : Band} {upperEdge : List Char} {c : Canvas}

/-- In the column of a lifeline a note leaves no ink, but its lower edge leaves ink in all columns
of the frame. -/
theorem lifelineInk_of_frame (here : d[i]? = some (.note side name text))
    (placed : (ofDiagram d).bands[i]? = some band)
    (same : (Statement.note side name text).strokes (ofDiagram d) band =
      Statement.framedStrokes start corner leader fold band text)
    (apart : leader < start ∨ start + (longestLine text + 3) < leader) {x : Nat}
    (first : start ≤ x) (last : x ≤ start + (longestLine text + 3)) :
    (ofDiagram d).lifelineInk x = none := by
  cases bandAt_of_getElem? here placed
  refine lifelineInk_eq_none fun k inside on => ?_
  have rows := bottom_eq d i (.note side name text)
  have edge := ink_of_note (i := i) (y := (bandAt d i (.note side name text)).bottom - 1)
    (List.mem_of_getElem? here) inside
  have high : (bandAt d i (.note side name text)).top <
      (bandAt d i (.note side name text)).bottom - 1 := by
    simp only [Statement.rows, noteRows] at rows
    omega
  rw [on, same, Statement.ink_of_lowerEdge rows apart first last,
    Ink.frame_of_edge (by omega) high (.inr rfl)] at edge
  split at edge
  · contradiction
  · rw [if_pos (by omega)] at edge
    contradiction

theorem holdsNote_of_framedStrokes (drawn : (ofDiagram d).render d = .ok c)
    (here : d[i]? = some (.note side name text))
    (placed : (ofDiagram d).bands[i]? = some band)
    (rows : band.bottom = band.top + noteRows text)
    (same : (Statement.note side name text).strokes (ofDiagram d) band =
      Statement.framedStrokes start corner leader fold band text)
    (apart : leader < start ∨ start + (longestLine text + 3) < leader)
    (corner_inside : start ≤ corner ∧ corner ≤ start + (longestLine text + 3))
    (length : upperEdge.length = longestLine text + 4)
    (upper : (Ink.ofStrokes (Statement.framedStrokes start corner leader fold band text)).Shows
      start band.top upperEdge) :
    c.HoldsNote (ofDiagram d).lifelineInk band text upperEdge start leader := by
  have height : noteRows text = (textLines text).length + 2 := rfl
  have shown {y : Nat} {chs : List Char} (row : band.top ≤ y ∧ y < band.bottom)
      (length : chs.length = longestLine text + 4)
      (shown : (Ink.ofStrokes (Statement.framedStrokes start corner leader fold band text)).Shows
        start y chs) : Ink.Shows c.cell start y chs := by
    rw [← same] at shown
    refine shows_of_row drawn here placed row (fun x first last => ?_) shown
    exact lifelineInk_of_frame here placed same apart first (by omega)
  constructor
  case rows => exact rows
  case upper => exact shown (by omega) length upper
  case lines =>
    intro k line at_k
    obtain ⟨inside, _⟩ := List.getElem?_eq_some_iff.1 at_k
    have fits := length_le_longestLine (List.mem_of_getElem? at_k)
    rw [← String.length_toList] at fits
    exact shown (by omega) (Ink.length_framedRow fits)
      (Statement.shows_framedLine rows apart at_k)
  case lower =>
    exact shown (by omega) (Ink.length_edgeRow ..) (Statement.shows_lowerEdge rows apart)
  case joined =>
    rw [cell_of_row drawn here placed (by omega), same, Statement.ink_of_leader rows,
      Option.some_or]
  case rest =>
    intro x y high low outside no_leader
    rw [cell_of_row drawn here placed ⟨high, low⟩, same,
      Statement.framedStrokes_of_outside rows corner_inside (by omega) no_leader, Option.none_or]

/-- Every note of a drawing is found beside its lifeline, whatever surrounds it: the upper edge with
the fold, the lines in their frame, the lower edge and the leader. All other cells of its rows are
lifelines or blank. -/
theorem note_drawn (drawn : (ofDiagram d).render d = .ok c)
    (here : d[i]? = some (.note side name text)) :
    ∃ (x start leader : Nat) (band : Band), (ofDiagram d).lifelineOf? name = some x ∧
      (ofDiagram d).bands[i]? = some band ∧
      (side = .left → start + (longestLine text + 5) = x ∧ leader + 1 = x) ∧
      (side = .right → start = x + 2 ∧ leader = x + 1) ∧
      c.HoldsNote (ofDiagram d).lifelineInk band text
        (Statement.noteEdge (longestLine text) side) start leader := by
  have mem := List.mem_of_getElem? here
  have width : noteWidth text = longestLine text + 4 := rfl
  obtain ⟨band, placed, _, rows⟩ := (complete_ofDiagram d).banded i _ here
  have lifeline := lifelineOf?_eq (participant_mem mem)
  have strokes := strokes_note mem band
  cases side with
  | left =>
      have room := leftReach_le_lifelineAt (List.getElem?_idxOf (participant_mem mem))
      have reach := leftNote_le_leftReach mem
      rw [Statement.noteStrokes_left] at strokes
      refine ⟨_, _, _, band, lifeline, placed, fun _ => ?_, nofun,
        holdsNote_of_framedStrokes drawn here placed rows strokes (.inr ?_) ?_
          (Ink.length_edgeRow ..) (Statement.shows_upperEdge_left rows (by decide))⟩ <;> omega
  | right =>
      rw [Statement.noteStrokes_right] at strokes
      refine ⟨_, _, _, band, lifeline, placed, nofun, fun _ => ⟨rfl, rfl⟩,
        holdsNote_of_framedStrokes drawn here placed rows strokes (.inl ?_) ?_
          (Ink.length_edgeRow ..) (Statement.shows_upperEdge_right rows (by decide))⟩ <;> omega

/-- A note of two lines behind a message, with the lifeline of another participant next to it. -/
theorem note_drawn_left :
    let d : Diagram := [.message "a" "c" "on", .note .left "b" "up\nhere"]
    ∃ c, (ofDiagram d).render d = .ok c ∧ Ink.Shows c.cell 10 6 "+------\\".toList ∧
      Ink.Shows c.cell 10 7 "| up   |".toList ∧ Ink.Shows c.cell 10 8 "| here |".toList ∧
      Ink.Shows c.cell 10 9 "+------+".toList ∧ c.cell 18 7 = some '-' ∧ c.cell 9 7 = some '|' := by
  intro d
  obtain ⟨c, drawn, _⟩ := render_of_small d (by decide)
  obtain ⟨x, start, leader, band, lifeline, placed, left, _, note⟩ :=
    note_drawn drawn (i := 1) rfl
  have at_b : (ofDiagram d).lifelineOf? "b" = some 19 := by decide +kernel
  have below : (ofDiagram d).bands[1]? = some ⟨6, 10, .note 2 .left⟩ := by decide +kernel
  have passing : (ofDiagram d).lifelineInk 9 = some '|' := by decide +kernel
  have width : longestLine "up\nhere" = 4 := by decide
  cases at_b.symm.trans lifeline
  cases below.symm.trans placed
  obtain ⟨columns, column⟩ := left rfl
  rw [width] at columns
  obtain rfl : start = 10 := by omega
  obtain rfl : leader = 18 := by omega
  refine ⟨c, drawn, note.upper, note.lines 0 "up" rfl, note.lines 1 "here" rfl, note.lower,
    note.joined, ?_⟩
  rw [note.rest 9 7 (by decide) (by decide) (by decide) (by decide), passing]

end Layout

end SequenceChart
