import SequenceChart.Proofs.Shown
import SequenceChart.Proofs.Spacing

/-!
The header of the finished drawing. Statements and lifelines leave the rows of the boxes alone, and
boxes stand apart, so every box is read there as it was drawn, with the name of its participant
inside, and nothing else is.
-/

namespace SequenceChart

namespace Column

variable {c : Column} {y width : Nat} {d : Diagram}

/-- The room for the name in a box. It is odd, as the width of the box is. -/
def nameRoom (c : Column) : Nat :=
  c.name.length + if c.name.length % 2 = 1 then 0 else 1

theorem length_le_nameRoom (c : Column) : c.name.length ≤ c.nameRoom :=
  Nat.le_add_right _ _

theorem Roomy.boxStop_eq (roomy : c.Roomy d width) : c.boxStop = c.boxStart + (c.nameRoom + 4) := by
  have box := roomy.box
  have room := roomy.name_room
  rw [nameRoom]
  split at room <;> rename_i odd
  · rw [if_pos odd]
    omega
  · rw [if_neg odd]
    omega

/-- A name of odd length has its middle on the lifeline. -/
theorem Roomy.middle_eq (roomy : c.Roomy d width) (odd : c.name.length % 2 = 1) :
    c.boxStart + 2 + c.name.length / 2 = c.lifeline := by
  have box := roomy.boxStop_eq
  rw [nameRoom, if_pos odd] at box
  have := roomy.centred
  omega

theorem inside_header (roomy : c.Roomy d width) :
    ∀ s ∈ c.header, s.Inside c.boxStart (c.boxStop - 1) 0 (headerRows - 1) := by
  have stop := roomy.boxStop_eq
  have fits := c.length_le_nameRoom
  simp only [header, List.forall_mem_cons, Stroke.Inside, headerRows]
  refine ⟨by omega, fun _ => by omega, List.forall_mem_nil _⟩

/-- The name is written over the frame. -/
theorem ink_header (roomy : c.Roomy d width) :
    Ink.ofStrokes c.header =
      .overlay (.chars (c.boxStart + 2) 1 c.name.toList)
        (.frame c.boxStart (c.boxStart + (c.nameRoom + 3)) 0 2) := by
  have stop : c.boxStop - 1 = c.boxStart + (c.nameRoom + 3) := by
    have := roomy.boxStop_eq
    omega
  funext x y
  simp only [header, stop, headerRows, Ink.ofStrokes, Ink.overlay, Ink.none, Stroke.ink,
    Nat.min_eq_left (Nat.le_add_right c.boxStart _),
    Nat.max_eq_right (Nat.le_add_right c.boxStart _), Nat.zero_min, Nat.zero_max, Option.none_or]

theorem shows_boxEdge (roomy : c.Roomy d width) (edge : y = 0 ∨ y = 2) :
    (Ink.ofStrokes c.header).Shows c.boxStart y
      (Ink.edgeRow Glyph.corner Glyph.corner c.nameRoom) := by
  refine Ink.shows_frameEdge (by decide) edge fun x _ _ => ?_
  rw [ink_header roomy, Ink.overlay, Ink.chars_of_row_ne (by omega), Option.none_or]

theorem shows_boxName (roomy : c.Roomy d width) :
    (Ink.ofStrokes c.header).Shows c.boxStart 1 (Ink.framedRow c.nameRoom c.name.toList) := by
  have fits := c.length_le_nameRoom
  rw [← String.length_toList] at fits
  refine Ink.shows_framedRow fits (by decide : 0 < 1 ∧ 1 < 2) fun x _ _ => ?_
  rw [ink_header roomy, Ink.overlay]

end Column

/-- A box on a canvas: the frame of three rows with the name in the middle one. -/
structure Canvas.HoldsBox (c : Canvas) (column : Column) : Prop where
  columns : column.boxStop = column.boxStart + (column.nameRoom + 4)
  upper : Ink.Shows c.cell column.boxStart 0
    (Ink.edgeRow Glyph.corner Glyph.corner column.nameRoom)
  name : Ink.Shows c.cell column.boxStart 1 (Ink.framedRow column.nameRoom column.name.toList)
  lower : Ink.Shows c.cell column.boxStart 2
    (Ink.edgeRow Glyph.corner Glyph.corner column.nameRoom)
  middle : column.name.length % 2 = 1 →
    column.boxStart + 2 + column.name.length / 2 = column.lifeline

/-- The name can be read in the box. -/
theorem Canvas.HoldsBox.shows_name {c : Canvas} {p : Column} (box : c.HoldsBox p) :
    Ink.Shows c.cell (p.boxStart + 2) 1 p.name.toList := by
  have row := box.name
  rw [Ink.framedRow, Ink.shows_cons, Ink.shows_cons, Ink.shows_append] at row
  exact (Ink.shows_append.1 row.2.2.1).1

namespace Layout

variable {d : Diagram} {x y : Nat} {p q : Column} {c : Canvas}

theorem box_unique (hp : p ∈ (ofDiagram d).columns) (hq : q ∈ (ofDiagram d).columns)
    (in_p : p.boxStart ≤ x ∧ x < p.boxStop) (in_q : q.boxStart ≤ x ∧ x < q.boxStop) : p = q := by
  obtain ⟨i, hi, rfl⟩ := List.getElem_of_mem hp
  obtain ⟨j, hj, rfl⟩ := List.getElem_of_mem hq
  have apart := List.pairwise_iff_getElem.1 (pairwise_columns d)
  rcases Nat.lt_trichotomy i j with before | rfl | behind
  · have := apart i j hi hj before
    omega
  · rfl
  · have := apart j i hj hi behind
    omega

theorem bounds_of_box (mem : p ∈ (ofDiagram d).columns) {ch : Char}
    (ink : Ink.ofStrokes p.header x y = some ch) : p.boxStart ≤ x ∧ x < p.boxStop := by
  have roomy := roomy_of_mem mem
  have stop := roomy.boxStop_eq
  have := Ink.bounds_of_inside (Column.inside_header roomy) ink
  omega

/-- Statements and lifelines leave no ink in the rows of the boxes. -/
theorem cell_of_header (drawn : (ofDiagram d).render d = .ok c) (header : y < headerRows)
    (x : Nat) :
    c.cell x y = Ink.ofStrokes ((ofDiagram d).columns.flatMap Column.header) x y := by
  have statements : statementInk d x y = none := by
    cases ink : statementInk d x y with
    | none => rfl
    | some ch =>
        obtain ⟨⟨s, band⟩, mem, ink⟩ := Ink.exists_of_flatMap ink
        obtain ⟨i, here, rfl⟩ := mem_zip_bands.1 mem
        have row := row_of_ink here ink
        have high := headerRows_le_top d i s
        omega
  have lifelines : Ink.ofStrokes ((ofDiagram d).columns.map (·.line (ofDiagram d).height)) x y =
      none := by
    have height : (ofDiagram d).height = headerRows + d.rows + 1 := rfl
    refine Ink.ofStrokes_eq_none_iff.2 fun s mem => ?_
    obtain ⟨column, _, rfl⟩ := List.mem_map.1 mem
    exact Ink.block_of_row_ne (.inl (by omega))
  rw [cell_eq_or drawn, statements, Option.none_or, frameStrokes, Ink.ofStrokes_append, Ink.overlay,
    lifelines, Option.none_or]

theorem cell_of_box (drawn : (ofDiagram d).render d = .ok c) (mem : p ∈ (ofDiagram d).columns)
    (inside : p.boxStart ≤ x ∧ x < p.boxStop) (header : y < headerRows) :
    c.cell x y = Ink.ofStrokes p.header x y := by
  rw [cell_of_header drawn header]
  refine Ink.ofStrokes_flatMap mem fun q other ch ink => ?_
  rw [box_unique mem other inside (bounds_of_box other ink)]
  exact ink

theorem holdsBox_of_mem (drawn : (ofDiagram d).render d = .ok c)
    (mem : p ∈ (ofDiagram d).columns) : c.HoldsBox p := by
  have roomy := roomy_of_mem mem
  have stop := roomy.boxStop_eq
  have fits := p.length_le_nameRoom
  rw [← String.length_toList] at fits
  have shown {y : Nat} {chs : List Char} (header : y < headerRows)
      (length : chs.length = p.nameRoom + 4)
      (shown : (Ink.ofStrokes p.header).Shows p.boxStart y chs) :
      Ink.Shows c.cell p.boxStart y chs :=
    shown.congr fun x first last => cell_of_box drawn mem ⟨first, by omega⟩ header
  constructor
  case columns => exact stop
  case upper =>
    exact shown (by decide) (Ink.length_edgeRow ..) (Column.shows_boxEdge roomy (.inl rfl))
  case name =>
    exact shown (by decide) (Ink.length_framedRow fits) (Column.shows_boxName roomy)
  case lower =>
    exact shown (by decide) (Ink.length_edgeRow ..) (Column.shows_boxEdge roomy (.inr rfl))
  case middle => exact roomy.middle_eq

/-- The header of a drawing holds the box of every participant, once each and apart from the others.
What is drawn later does not touch it, and the rest of its rows is blank. -/
theorem header_drawn (drawn : (ofDiagram d).render d = .ok c) :
    (ofDiagram d).columns.map Column.name = d.participants ∧ d.participants.Nodup ∧
      (ofDiagram d).columns.Pairwise (fun p q => p.boxStop < q.boxStart) ∧
      (∀ p ∈ (ofDiagram d).columns, c.HoldsBox p) ∧
      ∀ x y, y < headerRows →
        (∀ p ∈ (ofDiagram d).columns, x < p.boxStart ∨ p.boxStop ≤ x) → c.cell x y = none := by
  refine ⟨name_columns d, d.nodup_participants, (pairwise_columns d).imp And.left,
    fun p => holdsBox_of_mem drawn, fun x y header outside => ?_⟩
  rw [cell_of_header drawn header]
  cases ink : Ink.ofStrokes ((ofDiagram d).columns.flatMap Column.header) x y with
  | none => rfl
  | some ch =>
      obtain ⟨p, mem, ink⟩ := Ink.exists_of_flatMap ink
      have bounds := bounds_of_box mem ink
      have := outside p mem
      omega

/-- Names of even and of odd length, with a message right below. -/
theorem header_drawn_twoNames :
    let d : Diagram := [.message "ab" "abc" "on"]
    ∃ c, (ofDiagram d).render d = .ok c ∧ Ink.Shows c.cell 0 0 "+-----+".toList ∧
      Ink.Shows c.cell 0 1 "| ab  |".toList ∧ Ink.Shows c.cell 0 2 "+-----+".toList ∧
      Ink.Shows c.cell 8 1 "| abc |".toList ∧ c.cell 7 1 = none ∧ c.cell 11 2 = some '-' := by
  intro d
  obtain ⟨c, drawn, _⟩ := render_of_small d (by decide)
  obtain ⟨_, _, _, boxes, blank⟩ := header_drawn drawn
  have left : ∃ p ∈ (ofDiagram d).columns, p.boxStart = 0 ∧ p.name = "ab" := by decide +kernel
  have right : ∃ p ∈ (ofDiagram d).columns, p.boxStart = 8 ∧ p.name = "abc" := by decide +kernel
  have gap : ∀ p ∈ (ofDiagram d).columns, 7 < p.boxStart ∨ p.boxStop ≤ 7 := by decide +kernel
  obtain ⟨p, p_mem, p_start, p_name⟩ := left
  obtain ⟨q, q_mem, q_start, q_name⟩ := right
  have p_room : p.nameRoom = 3 := by rw [Column.nameRoom, p_name]; decide
  have q_room : q.nameRoom = 3 := by rw [Column.nameRoom, q_name]; decide
  obtain ⟨_, upper, even, lower, _⟩ := boxes p p_mem
  obtain ⟨_, _, odd, lower', _⟩ := boxes q q_mem
  rw [p_start, p_room] at upper even lower
  rw [q_start, q_room] at odd lower'
  rw [p_name] at even
  rw [q_name] at odd
  exact ⟨c, drawn, upper, even, lower, odd, blank 7 1 (by decide) gap, lower' 3 '-' rfl⟩

end Layout

end SequenceChart
