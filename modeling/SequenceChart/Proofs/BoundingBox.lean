import SequenceChart.Proofs.HeaderDrawing
import SequenceChart.Proofs.MessageDrawing
import SequenceChart.Proofs.NoteDrawing

/-!
A chart is no larger than its drawing. The room to either side of a lifeline is that of the box or
of one single note or loop, and this one is drawn up to the last column of the room. So the first
and the last column of the canvas hold ink, and so do its first row, with the boxes, and its last
row, with the lifelines.
-/

namespace SequenceChart

/-- A cell outside the canvas is blank. -/
theorem Canvas.inside_of_cell {c : Canvas} {x y : Nat} (inked : c.cell x y ≠ none) :
    x < c.width ∧ y < c.height := by
  rw [cell] at inked
  split at inked
  · next inside => simpa [contains] using inside
  · contradiction

namespace Layout

variable {d : Diagram} {i : Nat} {name text : String} {side : Side} {c : Canvas} {p : Column}

/-! What decides how far a participant reaches. -/

theorem leftReach_cases (d : Diagram) (name : String) : leftReach d name = halfBox name ∨
    ∃ text, .note .left name text ∈ d ∧ leftReach d name = noteWidth text + 1 := by
  refine Or.imp_right (fun reach => ?_)
    (foldr_max_cases (d.map (Statement.reachLeft name)) (halfBox name))
  obtain ⟨s, mem, widest⟩ := List.mem_map.1 reach
  change s.reachLeft name = leftReach d name at widest
  have box : 0 < leftReach d name :=
    Nat.lt_of_lt_of_le (Nat.succ_pos _) (halfBox_le_leftReach d name)
  cases s with
  | declare _ | space _ | message _ _ _ => exact (Nat.ne_of_lt box widest).elim
  | note side participant text =>
      cases side with
      | right => exact (Nat.ne_of_lt box widest).elim
      | left =>
          simp only [Statement.reachLeft] at widest
          split at widest
          · next same => exact ⟨text, same ▸ mem, widest.symm⟩
          · exact (Nat.ne_of_lt box widest).elim

theorem rightReach_cases (d : Diagram) (name : String) : rightReach d name = halfBox name + 1 ∨
    (∃ text, .note .right name text ∈ d ∧ rightReach d name = noteWidth text + 2) ∨
      ∃ text, .message name name text ∈ d ∧ rightReach d name = messageWidth text + 1 := by
  refine (foldr_max_cases (d.map (Statement.reachRight name)) (halfBox name + 1)).imp_right
    fun reach => ?_
  obtain ⟨s, mem, widest⟩ := List.mem_map.1 reach
  change s.reachRight name = rightReach d name at widest
  have box : 0 < rightReach d name := Nat.zero_lt_of_lt (halfBox_lt_rightReach d name)
  cases s with
  | declare _ | space _ => exact (Nat.ne_of_lt box widest).elim
  | message sender receiver text =>
      simp only [Statement.reachRight] at widest
      split at widest
      · next same =>
          obtain ⟨rfl, rfl⟩ := same
          exact .inr ⟨text, mem, widest.symm⟩
      · exact (Nat.ne_of_lt box widest).elim
  | note side participant text =>
      cases side with
      | left => exact (Nat.ne_of_lt box widest).elim
      | right =>
          simp only [Statement.reachRight] at widest
          split at widest
          · next same => exact .inl ⟨text, same ▸ mem, widest.symm⟩
          · exact (Nat.ne_of_lt box widest).elim

/-! The outermost cells of boxes, notes and loops. -/

theorem corners_of_box (drawn : (ofDiagram d).render d = .ok c) (mem : p ∈ (ofDiagram d).columns) :
    c.cell p.boxStart 0 = some Glyph.corner ∧ c.cell (p.boxStop - 1) 0 = some Glyph.corner := by
  have box := holdsBox_of_mem drawn mem
  have last : p.boxStart + (p.nameRoom + 3) = p.boxStop - 1 := by
    rw [box.columns]
    rfl
  have behind := box.upper (p.nameRoom + 3) Glyph.corner (by simp [Ink.edgeRow])
  rw [last] at behind
  exact ⟨box.upper 0 Glyph.corner rfl, behind⟩

theorem corner_of_leftNote (drawn : (ofDiagram d).render d = .ok c)
    (here : d[i]? = some (.note .left name text)) :
    c.cell (lifelineAt d (d.participants.idxOf name) - 1 - noteWidth text)
      ((bandAt d i (.note .left name text)).bottom - 1) = some Glyph.corner := by
  have mem := List.mem_of_getElem? here
  have width : noteWidth text = longestLine text + 4 := rfl
  have room := leftReach_le_lifelineAt (List.getElem?_idxOf (participant_mem mem))
  have reach := leftNote_le_leftReach mem
  have height : (bandAt d i (.note .left name text)).bottom =
      (bandAt d i (.note .left name text)).top + ((textLines text).length + 2) := rfl
  have placed := getElem?_bands_eq_some here
  rw [cell_of_row drawn here placed (by omega), strokes_note mem, Statement.noteStrokes_left,
    Statement.ink_of_lowerEdge height (.inr (by omega)) (Nat.le_refl _) (by omega),
    Ink.frame_of_edge (by omega) (by omega) (.inr rfl), if_pos (.inl rfl), Option.some_or]

theorem corner_of_rightNote (drawn : (ofDiagram d).render d = .ok c)
    (here : d[i]? = some (.note .right name text)) :
    c.cell (lifelineAt d (d.participants.idxOf name) + 1 + noteWidth text)
      ((bandAt d i (.note .right name text)).bottom - 1) = some Glyph.corner := by
  have mem := List.mem_of_getElem? here
  have width : noteWidth text = longestLine text + 4 := rfl
  have height : (bandAt d i (.note .right name text)).bottom =
      (bandAt d i (.note .right name text)).top + ((textLines text).length + 2) := rfl
  have placed := getElem?_bands_eq_some here
  rw [cell_of_row drawn here placed (by omega), strokes_note mem, Statement.noteStrokes_right,
    Statement.ink_of_lowerEdge height (.inl (by omega)) (by omega) (by omega),
    Ink.frame_of_edge (by omega) (by omega) (.inr rfl), if_pos (.inr (by omega)), Option.some_or]

theorem turn_of_loop (drawn : (ofDiagram d).render d = .ok c)
    (here : d[i]? = some (.message name name text)) :
    c.cell (lifelineAt d (d.participants.idxOf name) + messageWidth text)
      ((bandAt d i (.message name name text)).top + 2 + (textLines text).length) =
      some Glyph.vertical := by
  have mem := List.mem_of_getElem? here
  have turn : lifelineAt d (d.participants.idxOf name) + messageWidth text =
      lifelineAt d (d.participants.idxOf name) + 2 + longestLine text := by
    rw [messageWidth, messageMargin]
    omega
  have height := bottom_selfMessage d i name text
  rw [selfMessageRows] at height
  have placed := getElem?_bands_eq_some here
  rw [cell_of_row drawn here placed (by omega), strokes_selfMessage mem, turn,
    Statement.ink_of_turning, Ink.chars_cons_self, if_pos ⟨rfl, by decide⟩, Option.some_or]

/-! The edges of the canvas. -/

theorem corner_in_firstColumn (drawn : (ofDiagram d).render d = .ok c)
    (front : d.participants[0]? = some name) :
    ∃ y < (ofDiagram d).height, c.cell 0 y = some Glyph.corner := by
  have first : lifelineAt d 0 = leftReach d name := by
    rw [lifelineAt_zero, List.head?_eq_getElem?, front]
    rfl
  rcases leftReach_cases d name with box | ⟨text, mem, note⟩
  · have column := columns_getElem?_iff.2 ⟨name, front, rfl⟩
    have corner := (corners_of_box drawn (List.mem_of_getElem? column)).1
    have start : lifelineAt d 0 - halfBox name = 0 := by omega
    simp only [Column.boxStart, columnOf, start] at corner
    exact ⟨0, Nat.succ_pos _, corner⟩
  · obtain ⟨i, here⟩ := List.mem_iff_getElem?.1 mem
    have corner := corner_of_leftNote drawn here
    have start : lifelineAt d (d.participants.idxOf name) - 1 - noteWidth text = 0 := by
      rw [(Diagram.participants_getElem?_iff.1 front).2]
      omega
    rw [start] at corner
    have low := bottom_lt_height here
    exact ⟨_, by omega, corner⟩

theorem ink_in_lastColumn (drawn : (ofDiagram d).render d = .ok c)
    (front : d.participants[0]? = some name) :
    ∃ y < (ofDiagram d).height, ∃ ch ∈ [Glyph.corner, Glyph.vertical],
      c.cell ((ofDiagram d).width - 1) y = some ch := by
  have column := columns_getElem?_iff.2 ⟨name, front, rfl⟩
  obtain ⟨p, mem, width⟩ := exists_spanStop_eq_width (List.mem_of_getElem? column)
  have corner := (corners_of_box drawn mem).2
  obtain ⟨k, name, there, rfl⟩ := mem_columns mem
  have width : lifelineAt d k + rightReach d name = (ofDiagram d).width := width
  obtain ⟨_, index⟩ := Diagram.participants_getElem?_iff.1 there
  rcases rightReach_cases d name with box | ⟨text, note, reach⟩ | ⟨text, loop, reach⟩
  · have last : lifelineAt d k + halfBox name + 1 = (ofDiagram d).width := by omega
    simp only [Column.boxStop, columnOf, last] at corner
    exact ⟨0, Nat.succ_pos _, Glyph.corner, by simp, corner⟩
  · obtain ⟨i, here⟩ := List.mem_iff_getElem?.1 note
    have corner := corner_of_rightNote drawn here
    have last : lifelineAt d k + 1 + noteWidth text = (ofDiagram d).width - 1 := by omega
    rw [index, last] at corner
    have low := bottom_lt_height here
    exact ⟨_, by omega, Glyph.corner, by simp, corner⟩
  · obtain ⟨i, here⟩ := List.mem_iff_getElem?.1 loop
    have turn := turn_of_loop drawn here
    have last : lifelineAt d k + messageWidth text = (ofDiagram d).width - 1 := by omega
    rw [index, last] at turn
    have low := bottom_lt_height here
    have height := bottom_selfMessage d i name text
    rw [selfMessageRows] at height
    exact ⟨_, by omega, Glyph.vertical, by simp, turn⟩

/-- A canvas with a participant is the least rectangle around its drawing. All ink lies on it, and
there is ink on all four edges: a corner in the first column and one in the first row, a corner or
the turn of a loop in the last column, and a lifeline in the last row. -/
theorem edges_drawn (drawn : (ofDiagram d).render d = .ok c)
    (some_one : (ofDiagram d).columns ≠ []) :
    (∀ x y, Ink.ofStrokes ((ofDiagram d).strokes d) x y ≠ none → x < c.width ∧ y < c.height) ∧
      (∃ y < c.height, c.cell 0 y = some Glyph.corner) ∧
      (∃ y < c.height, ∃ ch ∈ [Glyph.corner, Glyph.vertical], c.cell (c.width - 1) y = some ch) ∧
      (∃ x < c.width, c.cell x 0 = some Glyph.corner) ∧
      ∃ x < c.width, c.cell x (c.height - 1) = some Glyph.vertical := by
  obtain ⟨width, height⟩ := size_of_render drawn
  obtain ⟨p, mem⟩ := List.exists_mem_of_ne_nil _ some_one
  obtain ⟨k, name, here, rfl⟩ := mem_columns mem
  have inside := lifelineAt_lt_width here
  have front : d.participants[0]? = some _ :=
    List.getElem?_eq_getElem (Nat.zero_lt_of_lt (List.getElem?_eq_some_iff.1 here).1)
  refine ⟨fun x y ink => ?_, ?_⟩
  · rw [← cell_of_render drawn] at ink
    exact Canvas.inside_of_cell ink
  · rw [width, height]
    refine ⟨corner_in_firstColumn drawn front, ink_in_lastColumn drawn front, ?_, ?_⟩
    · refine ⟨_, ?_, (corners_of_box drawn mem).1⟩
      exact Nat.lt_of_le_of_lt (Nat.sub_le _ _) inside
    · refine ⟨lifelineAt d k, inside, ?_⟩
      rw [cell_of_freeRow drawn .last]
      exact if_pos ⟨_, mem, rfl⟩

/-- A note left of the first participant and a loop at the last one reach further than the boxes. -/
theorem edges_drawn_noteAndLoop :
    let d : Diagram := [.note .left "a" "up", .message "b" "b" "round", .space 1]
    ∃ c, (ofDiagram d).render d = .ok c ∧ (ofDiagram d).columns ≠ [] ∧
      c.width = 21 ∧ c.height = 13 ∧ (∃ y < 13, c.cell 0 y = some Glyph.corner) ∧
      (∃ y < 13, ∃ ch ∈ [Glyph.corner, Glyph.vertical], c.cell 20 y = some ch) ∧
      (∃ x < 21, c.cell x 0 = some Glyph.corner) ∧
      ∃ x < 21, c.cell x 12 = some Glyph.vertical := by
  intro d
  obtain ⟨c, drawn, width, height, _⟩ := render_of_small d (by decide)
  have some_one : (ofDiagram d).columns ≠ [] := by decide +kernel
  have columns : (ofDiagram d).width = 21 := by decide +kernel
  have rows : (ofDiagram d).height = 13 := by decide +kernel
  have edges := (edges_drawn drawn some_one).2
  rw [width, height, columns, rows] at edges
  exact ⟨c, drawn, some_one, width.trans columns, height.trans rows, edges⟩

end Layout

end SequenceChart
