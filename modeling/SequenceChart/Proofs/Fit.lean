import SequenceChart.Proofs.Bands
import SequenceChart.Proofs.Extent

/-!
A drawing fits the layout of its diagram. Each kind of statement is drawn inside the columns that
the clearances keep free and the rows of its band; so all strokes fit, and drawing fails only where
the grid itself is too large.
-/

namespace SequenceChart

namespace Layout

variable {d : Diagram} {i : Nat} {name sender receiver text : String} {side : Side}

theorem lifelineAt_lt_width (here : d.participants[i]? = some name) :
    lifelineAt d i < (ofDiagram d).width := by
  have := rightReach_le_width here
  have := halfBox_lt_rightReach d name
  omega

/-! Every name that a statement mentions is found, so each kind of statement is drawn between the
lifelines of its participants. -/

theorem sender_mem (mem : .message sender receiver text ∈ d) : sender ∈ d.participants :=
  Diagram.mem_participants mem (by simp [Statement.mentions])

theorem receiver_mem (mem : .message sender receiver text ∈ d) : receiver ∈ d.participants :=
  Diagram.mem_participants mem (by simp [Statement.mentions])

theorem participant_mem (mem : .note side name text ∈ d) : name ∈ d.participants :=
  Diagram.mem_participants mem (by simp [Statement.mentions])

theorem strokes_note (mem : .note side name text ∈ d) (band : Band) :
    (Statement.note side name text).strokes (ofDiagram d) band =
      Statement.noteStrokes side (lifelineAt d (d.participants.idxOf name)) band text := by
  simp only [Statement.strokes, lifelineOf?_eq (participant_mem mem)]

theorem strokes_selfMessage (mem : .message name name text ∈ d) (band : Band) :
    (Statement.message name name text).strokes (ofDiagram d) band =
      Statement.selfStrokes (lifelineAt d (d.participants.idxOf name)) band text := by
  simp only [Statement.strokes, lifelineOf?_eq (sender_mem mem), if_true]

theorem strokes_rightward (mem : .message sender receiver text ∈ d)
    (before : d.participants.idxOf sender < d.participants.idxOf receiver) (band : Band) :
    (Statement.message sender receiver text).strokes (ofDiagram d) band =
      Statement.rightwardStrokes (lifelineAt d (d.participants.idxOf sender))
        (lifelineAt d (d.participants.idxOf receiver)) band text := by
  have apart : sender ≠ receiver := fun same => Nat.ne_of_lt before (by rw [same])
  have right := lifelineAt_lt before (List.idxOf_lt_length_of_mem (receiver_mem mem))
  simp only [Statement.strokes, lifelineOf?_eq (sender_mem mem), lifelineOf?_eq (receiver_mem mem),
    apart, right, if_true, if_false]

theorem strokes_leftward (mem : .message sender receiver text ∈ d)
    (behind : d.participants.idxOf receiver < d.participants.idxOf sender) (band : Band) :
    (Statement.message sender receiver text).strokes (ofDiagram d) band =
      Statement.leftwardStrokes (lifelineAt d (d.participants.idxOf sender))
        (lifelineAt d (d.participants.idxOf receiver)) band text := by
  have apart : sender ≠ receiver := fun same => Nat.ne_of_gt behind (by rw [same])
  have left := lifelineAt_lt behind (List.idxOf_lt_length_of_mem (sender_mem mem))
  simp only [Statement.strokes, lifelineOf?_eq (sender_mem mem), lifelineOf?_eq (receiver_mem mem),
    apart, Nat.not_lt_of_gt left, if_false]

/-- The three ways in which the ends of a message may lie. -/
theorem message_cases (mem : .message sender receiver text ∈ d) :
    sender = receiver ∨ d.participants.idxOf sender < d.participants.idxOf receiver ∨
      d.participants.idxOf receiver < d.participants.idxOf sender := by
  rcases Nat.lt_trichotomy (d.participants.idxOf sender) (d.participants.idxOf receiver) with
    before | same | behind
  · exact .inr (.inl before)
  · exact .inl ((List.idxOf_inj (sender_mem mem)).1 same)
  · exact .inr (.inr behind)

/-! The rectangles that the statements of a diagram stay in. -/

theorem inside_rightwardMessage (mem : .message sender receiver text ∈ d)
    (before : d.participants.idxOf sender < d.participants.idxOf receiver) (i : Nat) :
    let band := bandAt d i (.message sender receiver text)
    ∀ s ∈ (Statement.message sender receiver text).strokes (ofDiagram d) band,
      s.Inside (lifelineAt d (d.participants.idxOf sender) + 1)
        (lifelineAt d (d.participants.idxOf receiver) - 1) (band.top + 1) (band.bottom - 1) := by
  intro band
  have rows : band.bottom = band.top + messageRows text :=
    bottom_message fun same => Nat.ne_of_lt before (by rw [same])
  have := clear_of_message mem before (.inl ⟨rfl, rfl⟩)
  rw [strokes_rightward mem before]
  exact Statement.inside_rightward (by omega) rows

theorem inside_leftwardMessage (mem : .message sender receiver text ∈ d)
    (behind : d.participants.idxOf receiver < d.participants.idxOf sender) (i : Nat) :
    let band := bandAt d i (.message sender receiver text)
    ∀ s ∈ (Statement.message sender receiver text).strokes (ofDiagram d) band,
      s.Inside (lifelineAt d (d.participants.idxOf receiver) + 1)
        (lifelineAt d (d.participants.idxOf sender) - 1) (band.top + 1) (band.bottom - 1) := by
  intro band
  have rows : band.bottom = band.top + messageRows text :=
    bottom_message fun same => Nat.ne_of_gt behind (by rw [same])
  have := clear_of_message mem behind (.inr ⟨rfl, rfl⟩)
  rw [strokes_leftward mem behind]
  exact Statement.inside_leftward (by omega) rows

theorem inside_selfMessage (mem : .message name name text ∈ d) (i : Nat) :
    let band := bandAt d i (.message name name text)
    ∀ s ∈ (Statement.message name name text).strokes (ofDiagram d) band,
      s.Inside (lifelineAt d (d.participants.idxOf name) + 1)
        (lifelineAt d (d.participants.idxOf name) + messageWidth text)
        (band.top + 1) (band.bottom - 1) := by
  intro band
  rw [strokes_selfMessage mem]
  exact Statement.inside_self (bottom_selfMessage d i name text)

theorem inside_leftNote (mem : .note .left name text ∈ d) (i : Nat) :
    let band := bandAt d i (.note .left name text)
    ∀ s ∈ (Statement.note .left name text).strokes (ofDiagram d) band,
      s.Inside (lifelineAt d (d.participants.idxOf name) - 1 - noteWidth text)
        (lifelineAt d (d.participants.idxOf name) - 1) band.top (band.bottom - 1) := by
  intro band
  have := leftReach_le_lifelineAt (List.getElem?_idxOf (participant_mem mem))
  have := leftNote_le_leftReach mem
  rw [strokes_note mem]
  exact Statement.inside_leftNote (by omega) rfl

theorem inside_rightNote (mem : .note .right name text ∈ d) (i : Nat) :
    let band := bandAt d i (.note .right name text)
    ∀ s ∈ (Statement.note .right name text).strokes (ofDiagram d) band,
      s.Inside (lifelineAt d (d.participants.idxOf name) + 1)
        (lifelineAt d (d.participants.idxOf name) + 1 + noteWidth text)
        band.top (band.bottom - 1) := by
  intro band
  rw [strokes_note mem]
  exact Statement.inside_rightNote rfl

theorem fit_statement {s : Statement} (here : d[i]? = some s) :
    ∀ stroke ∈ s.strokes (ofDiagram d) (bandAt d i s),
      stroke.Fits (ofDiagram d).width (ofDiagram d).height := by
  intro stroke drawn
  have mem := List.mem_of_getElem? here
  have low : (bandAt d i s).bottom - 1 < (ofDiagram d).height := by
    have := bottom_lt_height here
    omega
  cases s with
  | declare _ | space _ => contradiction
  | message sender receiver text =>
      have sender_here := List.getElem?_idxOf (sender_mem mem)
      have receiver_here := List.getElem?_idxOf (receiver_mem mem)
      have := lifelineAt_lt_width sender_here
      have := lifelineAt_lt_width receiver_here
      rcases message_cases mem with rfl | before | behind
      · have := rightReach_le_width sender_here
        have := selfMessage_le_rightReach mem
        exact (inside_selfMessage mem i stroke drawn).fits (by omega) low
      · exact (inside_rightwardMessage mem before i stroke drawn).fits (by omega) low
      · exact (inside_leftwardMessage mem behind i stroke drawn).fits (by omega) low
  | note side name text =>
      have participant_here := List.getElem?_idxOf (participant_mem mem)
      cases side with
      | left =>
          have := lifelineAt_lt_width participant_here
          exact (inside_leftNote mem i stroke drawn).fits (by omega) low
      | right =>
          have := rightReach_le_width participant_here
          have := rightNote_le_rightReach mem
          exact (inside_rightNote mem i stroke drawn).fits (by omega) low

theorem fit_header (here : d.participants[i]? = some name) (placements : List Placement) :
    ∀ s ∈ (columnOf d placements i name (lifelineAt d i)).header,
      s.Fits (ofDiagram d).width (ofDiagram d).height := by
  have := rightReach_le_width here
  have := halfBox_lt_rightReach d name
  have := leftReach_le_lifelineAt here
  have := halfBox_le_leftReach d name
  have high : (ofDiagram d).height = 3 + d.rows + 1 := rfl
  simp only [Column.header, List.forall_mem_cons, Column.boxStart, Column.boxStop, columnOf,
    headerRows]
  refine ⟨⟨by omega, by omega⟩, fun _ => ⟨?_, by omega⟩, by simp⟩
  have half : halfBox name = name.length / 2 + 2 := rfl
  omega

theorem fit_line (here : d.participants[i]? = some name) (placements : List Placement) :
    ((columnOf d placements i name (lifelineAt d i)).line (ofDiagram d).height).Fits
      (ofDiagram d).width (ofDiagram d).height := by
  have high : (ofDiagram d).height = 3 + d.rows + 1 := rfl
  refine ⟨lifelineAt_lt_width here, ?_⟩
  rw [headerRows]
  omega

theorem mem_columns {c : Column} (mem : c ∈ (ofDiagram d).columns) :
    ∃ i name, d.participants[i]? = some name ∧
      c = columnOf d (d.map (Statement.placement d.participants)) i name (lifelineAt d i) := by
  obtain ⟨i, here⟩ := List.mem_iff_getElem?.1 mem
  rw [getElem?_columns] at here
  obtain ⟨name, there, rfl⟩ := Option.map_eq_some_iff.1 here
  exact ⟨i, name, there, rfl⟩

/-- All strokes of a diagram fit the layout of the diagram. -/
theorem fit_strokes (d : Diagram) :
    ∀ s ∈ (ofDiagram d).strokes d, s.Fits (ofDiagram d).width (ofDiagram d).height := by
  simp only [strokes, frameStrokes, List.forall_mem_append]
  refine ⟨⟨?_, ?_⟩, ?_⟩
  · intro s mem
    obtain ⟨c, column, mem⟩ := List.mem_flatMap.1 mem
    obtain ⟨i, name, here, rfl⟩ := mem_columns column
    exact fit_header here _ s mem
  · intro s mem
    obtain ⟨c, column, rfl⟩ := List.mem_map.1 mem
    obtain ⟨i, name, here, rfl⟩ := mem_columns column
    exact fit_line here _
  · intro s mem
    obtain ⟨⟨statement, band⟩, drawn, mem⟩ := List.mem_flatMap.1 mem
    obtain ⟨i, here, rfl⟩ := mem_zip_bands.1 drawn
    exact fit_statement here s mem

/-- A drawing that is not too large succeeds, and its cells are the ink of its strokes. -/
theorem render_of_small (d : Diagram)
    (small : (ofDiagram d).width * (ofDiagram d).height ≤ maxCells) :
    ∃ c, (ofDiagram d).render d = .ok c ∧ c.width = (ofDiagram d).width ∧
      c.height = (ofDiagram d).height ∧
      ∀ x y, c.cell x y = Ink.ofStrokes ((ofDiagram d).strokes d) x y := by
  obtain ⟨blank, created⟩ : ∃ blank, Canvas.blank (ofDiagram d).width (ofDiagram d).height =
      .ok blank := ⟨_, Canvas.blank_eq_ok_iff.2 ⟨small, rfl⟩⟩
  obtain ⟨width, height⟩ := Canvas.size_blank created
  have fit := fit_strokes d
  rw [← width, ← height] at fit
  obtain ⟨c, drawn, hw, hh, cells⟩ := blank.draw_of_fits _ fit
  refine ⟨c, ?_, by rw [hw, width], by rw [hh, height], ?_⟩
  · rw [render, created]
    exact drawn
  · intro x y
    rw [cells, Canvas.cell_blank created, Option.or_none]

theorem render_of_overflow {l : Layout} (huge : wordLimit ≤ l.width * l.height) :
    l.render d = .error (.areaOverflow l.width l.height) := by
  rw [render, Canvas.blank, if_pos huge]
  rfl

theorem render_of_large {l : Layout} (countable : l.width * l.height < wordLimit)
    (large : maxCells < l.width * l.height) :
    l.render d = .error (.tooLarge l.width l.height) := by
  rw [render, Canvas.blank, if_neg (Nat.not_le_of_gt countable), if_pos large]
  rfl

theorem render_eq_error_iff {e : CanvasError} : (ofDiagram d).render d = .error e ↔
    Canvas.blank (ofDiagram d).width (ofDiagram d).height = .error e := by
  cases created : Canvas.blank (ofDiagram d).width (ofDiagram d).height with
  | error e' =>
      rw [render, created]
      exact Iff.rfl
  | ok blank =>
      obtain ⟨c, drawn, _⟩ := render_of_small d (Canvas.blank_eq_ok_iff.1 created).1
      rw [drawn]
      exact ⟨nofun, nofun⟩

theorem small_of_render {c : Canvas} (drawn : (ofDiagram d).render d = .ok c) :
    (ofDiagram d).width * (ofDiagram d).height ≤ maxCells := by
  cases created : Canvas.blank (ofDiagram d).width (ofDiagram d).height with
  | ok blank => exact (Canvas.blank_eq_ok_iff.1 created).1
  | error e =>
      rw [render_eq_error_iff.2 created] at drawn
      contradiction

theorem size_of_render {c : Canvas} (drawn : (ofDiagram d).render d = .ok c) :
    c.width = (ofDiagram d).width ∧ c.height = (ofDiagram d).height := by
  obtain ⟨c', drawn', width, height, _⟩ := render_of_small d (small_of_render drawn)
  cases drawn.symm.trans drawn'
  exact ⟨width, height⟩

theorem cell_of_render {c : Canvas} (drawn : (ofDiagram d).render d = .ok c) (x y : Nat) :
    c.cell x y = Ink.ofStrokes ((ofDiagram d).strokes d) x y := by
  obtain ⟨c', drawn', _, _, cells⟩ := render_of_small d (small_of_render drawn)
  cases drawn.symm.trans drawn'
  exact cells x y

/-- Placing and drawing find everything they look up, and no difference of columns or rows that
they compute is cut off at zero. -/
structure Complete (l : Layout) (d : Diagram) : Prop where
  /-- Columns count from the leftmost one that anything takes, which is at the first lifeline. -/
  leftmost : ∀ c ∈ l.columns.head?, c.lifeline = c.left
  span : ∀ c ∈ l.columns, c.left ≤ c.lifeline
  box : ∀ c ∈ l.columns, c.half ≤ c.lifeline ∧ 1 ≤ c.boxStop ∧
    c.boxStart + boxWidth c.name = c.boxStop ∧ c.name.length ≤ boxWidth c.name
  line : headerRows ≤ l.height - 1 ∧ 1 ≤ l.height
  /-- A lifeline is placed behind lifelines that are placed already. -/
  placed : ∀ c ∈ Clearance.ofDiagram d.participants d, c.before < c.after
  registered : ∀ s ∈ d, ∀ name ∈ s.mentions, ∃ c : Column, l.column? name = some c ∧
    c.name = name ∧ l.columns[d.participants.idxOf name]? = some c
  banded : ∀ (i : Nat) (s : Statement), d[i]? = some s → ∃ band : Band,
    l.bands[i]? = some band ∧ band.placement = s.placement d.participants ∧
      band.bottom = band.top + s.rows
  /-- Between the lifelines of a message there is room for its arrow and its text. -/
  message : ∀ (i : Nat) (sender receiver text : String) (band : Band),
    d[i]? = some (.message sender receiver text) → l.bands[i]? = some band →
      1 ≤ band.bottom ∧ ∃ x y, l.lifelineOf? sender = some x ∧ l.lifelineOf? receiver = some y ∧
        (x < y → 1 ≤ y ∧ x + 1 ≤ y - 1) ∧
        (y < x → 1 ≤ x ∧ y + 1 ≤ x - 1 ∧ ∀ line ∈ textLines text, line.length ≤ x - 1)
  note : ∀ (i : Nat) (side : Side) (name text : String) (band : Band),
    d[i]? = some (.note side name text) → l.bands[i]? = some band →
      1 ≤ band.bottom ∧ 1 ≤ noteWidth text ∧
        ∃ x, l.lifelineOf? name = some x ∧ (side = .left → 1 ≤ x ∧ noteWidth text ≤ x - 1)

theorem bottom_pos {band : Band} {s : Statement} (there : (ofDiagram d).bands[i]? = some band)
    (here : d[i]? = some s) : 1 ≤ band.bottom := by
  rw [getElem?_bands, here] at there
  cases there
  simp only [bandAt, headerRows]
  omega

theorem message_room (mem : .message sender receiver text ∈ d) :
    ∃ x y, (ofDiagram d).lifelineOf? sender = some x ∧ (ofDiagram d).lifelineOf? receiver = some y ∧
      (x < y → x + messageWidth text + 1 ≤ y) ∧ (y < x → y + messageWidth text + 1 ≤ x) := by
  refine ⟨_, _, lifelineOf?_eq (sender_mem mem), lifelineOf?_eq (receiver_mem mem), ?_⟩
  rcases message_cases mem with rfl | before | behind
  · exact ⟨fun less => (Nat.lt_irrefl _ less).elim, fun less => (Nat.lt_irrefl _ less).elim⟩
  · have := clear_of_message mem before (.inl ⟨rfl, rfl⟩)
    omega
  · have := clear_of_message mem behind (.inr ⟨rfl, rfl⟩)
    omega

theorem complete_ofDiagram (d : Diagram) : (ofDiagram d).Complete d where
  leftmost c mem := by
    rw [List.head?_eq_getElem?, getElem?_columns] at mem
    obtain ⟨name, here, rfl⟩ := Option.map_eq_some_iff.1 mem
    change lifelineAt d 0 = leftReach d name
    rw [lifelineAt_zero, List.head?_eq_getElem?, here]
    rfl
  span c mem := by
    obtain ⟨i, name, here, rfl⟩ := mem_columns mem
    exact leftReach_le_lifelineAt here
  box c mem := by
    obtain ⟨i, name, here, rfl⟩ := mem_columns mem
    have := leftReach_le_lifelineAt here
    have := halfBox_le_leftReach d name
    have half : halfBox name = name.length / 2 + 2 := rfl
    simp only [Column.boxStart, Column.boxStop, columnOf, boxWidth]
    omega
  line := by
    have high : (ofDiagram d).height = 3 + d.rows + 1 := rfl
    rw [high, headerRows]
    omega
  placed c mem := Clearance.before_lt_after mem
  registered s mem name mentioned := by
    have here := List.getElem?_idxOf (Diagram.mem_participants mem mentioned)
    refine ⟨_, column?_eq here, rfl, ?_⟩
    rw [getElem?_columns, here]
    rfl
  banded i s here := by
    rw [getElem?_bands, here]
    exact ⟨_, rfl, rfl, rfl⟩
  message i sender receiver text band here there := by
    obtain ⟨x, y, hx, hy, right, left⟩ := message_room (List.mem_of_getElem? here)
    have width : messageWidth text = longestLine text + 2 := rfl
    refine ⟨bottom_pos there here, x, y, hx, hy, by omega, fun less => ?_⟩
    refine ⟨by omega, by omega, fun line mem => ?_⟩
    have := length_le_longestLine mem
    omega
  note i side name text band here there := by
    have mem := List.mem_of_getElem? here
    have width : noteWidth text = longestLine text + 4 := rfl
    refine ⟨bottom_pos there here, by omega, _, lifelineOf?_eq (participant_mem mem), ?_⟩
    rintro rfl
    have := leftReach_le_lifelineAt (List.getElem?_idxOf (participant_mem mem))
    have := leftNote_le_leftReach mem
    omega

/-- Drawing a diagram in its own layout fails only where the grid is too large, and neither
placing nor drawing ever leaves the grid or misses a participant or a band. -/
theorem render_fits (d : Diagram) :
    let l := ofDiagram d
    (l.width * l.height ≤ maxCells →
      ∃ c, l.render d = .ok c ∧ c.width = l.width ∧ c.height = l.height) ∧
    (wordLimit ≤ l.width * l.height →
      l.render d = .error (.areaOverflow l.width l.height)) ∧
    (maxCells < l.width * l.height → l.width * l.height < wordLimit →
      l.render d = .error (.tooLarge l.width l.height)) ∧
    (∀ x y w h, l.render d ≠ .error (.outOfBounds x y w h)) ∧
    l.Complete d := by
  intro l
  have drawn (small : l.width * l.height ≤ maxCells) :
      ∃ c, l.render d = .ok c ∧ c.width = l.width ∧ c.height = l.height := by
    obtain ⟨c, drawn, width, height, _⟩ := render_of_small d small
    exact ⟨c, drawn, width, height⟩
  refine ⟨drawn, render_of_overflow, fun large countable => render_of_large countable large, ?_,
    complete_ofDiagram d⟩
  intro x y w h failed
  rcases Nat.lt_or_ge maxCells (l.width * l.height) with large | small
  · rcases Nat.lt_or_ge (l.width * l.height) wordLimit with countable | huge
    · simp [render_of_large countable large] at failed
    · simp [render_of_overflow huge] at failed
  · obtain ⟨c, success, _⟩ := drawn small
    simp [success] at failed

end Layout

end SequenceChart
