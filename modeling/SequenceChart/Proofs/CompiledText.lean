import SequenceChart.Proofs.CommentModes
import SequenceChart.Proofs.LineBreaks

/-!
What compiling a source gives as text: the grid of the layout row by row, whose cells are limited in
number. The rows are not limited where the grid has no columns.
-/

namespace SequenceChart

variable {mode : CommentNewline} {source : String} {r : Compiled} {d : Diagram}

theorem size_of_compile (compiled : compile mode source = .ok r) :
    r.canvas.width = r.layout.width ∧ r.canvas.height = r.layout.height := by
  obtain ⟨_, layout, drawn⟩ := compile_eq_ok.1 compiled
  rw [layout]
  exact Layout.size_of_render drawn

theorem height_of_compile (compiled : compile mode source = .ok r) :
    r.layout.height = 3 + (r.program.diagram.map Statement.rows).sum + 1 := by
  obtain ⟨_, layout, _⟩ := compile_eq_ok.1 compiled
  rw [layout, ← Diagram.rows_eq_sum]
  rfl

/-! The text is the grid. -/

theorem unbroken_of_compile (compiled : compile mode source = .ok r) {x y : Nat} {ch : Char}
    (here : r.canvas.cell x y = some ch) : Lexeme.isLineBreak ch = false := by
  obtain ⟨read, _, drawn⟩ := compile_eq_ok.1 compiled
  exact Layout.unbroken_cells (Program.unbroken_of_ofSource read) drawn here

/-- No cell of a drawing holds a line break, so the line feeds of its text give the rows back. They
are as many and as long as the layout says. -/
theorem text_is_grid (compiled : compile mode source = .ok r) :
    (∀ x y ch, r.canvas.cell x y = some ch → ch ≠ '\n' ∧ ch ≠ '\r') ∧
    Text.splitLines (Document.text r.canvas) = r.canvas.rows ∧
    r.canvas.rows.length = r.layout.height ∧
    (∀ row ∈ r.canvas.rows, row.length = r.layout.width) ∧
    r.layout.height = 3 + (r.program.diagram.map Statement.rows).sum + 1 := by
  obtain ⟨width, height⟩ := size_of_compile compiled
  have rows := height_of_compile compiled
  have solid : ∀ x y ch, r.canvas.cell x y = some ch → ch ≠ '\n' ∧ ch ≠ '\r' := by
    intro x y ch here
    simpa [Lexeme.isLineBreak] using unbroken_of_compile compiled here
  refine ⟨solid, Document.splitLines_text ?_ ?_, ?_, ?_, rows⟩
  · omega
  · intro x y feed
    exact (solid x y '\n' feed).1 rfl
  · rw [Canvas.length_rows, height]
  · intro row mem
    rw [Canvas.length_of_mem_rows mem, width]

theorem text_is_grid_two_lines : ∃ r, compile .swallow "A->B: to\\nyou" = .ok r ∧
    r.layout.height = 8 ∧ Text.splitLines (Document.text r.canvas) = r.canvas.rows ∧
    r.canvas.rows.length = 8 := by
  have drawn : (compile .swallow "A->B: to\\nyou").map (·.layout.height) = .ok 8 := by
    decide +kernel
  obtain ⟨r, compiled, height⟩ := Program.map_eq_ok.1 drawn
  obtain ⟨_, lines, rows, _⟩ := text_is_grid compiled
  exact ⟨r, compiled, height, lines, rows.trans height⟩

/-! The length of the text. -/

theorem Layout.width_pos_iff : 0 < (ofDiagram d).width ↔ d.participants ≠ [] := by
  constructor
  · intro positive none
    have empty : (ofDiagram d).width = 0 := by
      simp [ofDiagram, columnsOf, none]
    omega
  · intro some_name
    have here : d.participants[0]? = some (d.participants.head some_name) := by
      rw [← List.head?_eq_getElem?, List.head?_eq_some_head]
    exact Nat.zero_lt_of_lt (lifelineAt_lt_width here)

/-- The text has a character for each cell and a line feed between rows. Cells are limited, and rows
with cells are not more than these; rows without a cell leave line feeds only. -/
theorem compiled_text_length (compiled : compile mode source = .ok r) :
    (Document.text r.canvas).length =
        r.canvas.width * r.canvas.height + (r.canvas.height - 1) ∧
    r.canvas.width * r.canvas.height ≤ maxCells ∧
    (r.program.diagram.participants ≠ [] → (Document.text r.canvas).length ≤ 2 * maxCells) ∧
    (r.program.diagram.participants = [] → r.canvas.width = 0 ∧
      r.canvas.height = 3 + (r.program.diagram.map Statement.rows).sum + 1 ∧
      ∀ ch ∈ (Document.text r.canvas).toList, ch = '\n') := by
  obtain ⟨_, _, drawn⟩ := compile_eq_ok.1 compiled
  obtain ⟨width, height⟩ := Layout.size_of_render drawn
  have length := Document.length_text r.canvas
  have cells := Layout.small_of_render drawn
  rw [← width, ← height] at cells
  refine ⟨length, cells, fun some_name => ?_, fun none => ?_⟩
  · have column := Layout.width_pos_iff.2 some_name
    rw [← width] at column
    have rows := Nat.le_mul_of_pos_left r.canvas.height column
    omega
  · have flat : r.canvas.width = 0 := by
      rw [width, ← Nat.le_zero, ← Nat.not_lt, Layout.width_pos_iff, not_not]
      exact none
    refine ⟨flat, ?_, Document.feeds_of_text flat⟩
    rw [(size_of_compile compiled).2, height_of_compile compiled]

theorem compiled_text_length_arrow : ∃ r, compile .keep "A->B" = .ok r ∧
    (Document.text r.canvas).length ≤ 2 * maxCells := by
  have drawn : (compile .keep "A->B").map (·.program.diagram.participants) = .ok ["A", "B"] := by
    decide +kernel
  obtain ⟨r, compiled, names⟩ := Program.map_eq_ok.1 drawn
  refine ⟨r, compiled, (compiled_text_length compiled).2.2.1 ?_⟩
  rw [names]
  exact List.cons_ne_nil _ _

/-- A gap without a participant is a text of line feeds, however many. -/
theorem text_exceeds_cells_without_columns :
    ¬ ∀ (mode : CommentNewline) (source : String) (r : Compiled),
      compile mode source = .ok r → (Document.text r.canvas).length ≤ 2 * maxCells := by
  have parsed : (Program.ofSource .swallow "space 134217726").map Program.diagram =
      .ok [.space 134217726] := by
    decide +kernel
  obtain ⟨p, read, diagram⟩ := Program.map_eq_ok.1 parsed
  have flat : (Layout.ofDiagram p.diagram).width = 0 := by
    rw [diagram]
    rfl
  have high : (Layout.ofDiagram p.diagram).height = 134217730 := by
    rw [diagram]
    rfl
  have small : (Layout.ofDiagram p.diagram).width * (Layout.ofDiagram p.diagram).height ≤
      maxCells := by
    rw [flat, Nat.zero_mul]
    exact Nat.zero_le _
  obtain ⟨c, drawn, width, height, _⟩ := Layout.render_of_small p.diagram small
  intro bounded
  have bound := bounded .swallow _ ⟨p, .ofDiagram p.diagram, c⟩
    (compile_eq_ok.2 ⟨read, rfl, drawn⟩)
  rw [Document.length_text, width, height, flat, high] at bound
  exact absurd bound (by decide)

end SequenceChart
