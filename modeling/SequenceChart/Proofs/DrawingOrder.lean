import SequenceChart.Proofs.Lifelines

/-!
The order in which statements are drawn. A statement changes nothing outside the rows of its band,
and bands have no row in common; so any order of the statements gives the same drawing. Rows in
which no statement draws hold the lifelines and nothing else.
-/

namespace SequenceChart

/-- Parts of a drawing that agree where their ink meets may be drawn in any order. -/
theorem Ink.ofStrokes_flatMap_perm {α : Type} {parts parts' : List α} {f : α → List Stroke}
    {x y : Nat} (perm : parts.Perm parts')
    (agree : ∀ p ∈ parts, ∀ q ∈ parts, ∀ ch ch', ofStrokes (f p) x y = some ch →
      ofStrokes (f q) x y = some ch' → ch' = ch) :
    ofStrokes (parts.flatMap f) x y = ofStrokes (parts'.flatMap f) x y := by
  by_cases inked : ∃ p ∈ parts, ∃ ch, ofStrokes (f p) x y = some ch
  · obtain ⟨p, mem, ch, ink⟩ := inked
    have same : ∀ q ∈ parts, ∀ ch', ofStrokes (f q) x y = some ch' →
        ofStrokes (f p) x y = some ch' := by
      intro q mem' ch' ink'
      rw [ink, agree p mem q mem' ch ch' ink ink']
    rw [ofStrokes_flatMap mem same, ofStrokes_flatMap (perm.mem_iff.1 mem)]
    intro q mem' ch' ink'
    exact same q (perm.mem_iff.2 mem') ch' ink'
  · have blank (order : List α) (perm : parts.Perm order) :
        ofStrokes (order.flatMap f) x y = .none := by
      cases ink : ofStrokes (order.flatMap f) x y with
      | none => rfl
      | some ch =>
          obtain ⟨p, mem, ink⟩ := exists_of_flatMap ink
          exact (inked ⟨p, perm.mem_iff.2 mem, ch, ink⟩).elim
    rw [blank parts (.refl parts), blank parts' perm]

namespace Layout

/-- The strokes of a drawing whose statements are drawn in the given order, each in its band. -/
def strokesInOrder (l : Layout) (order : List (Statement × Band)) : List Stroke :=
  l.frameStrokes ++ order.flatMap fun (s, band) => s.strokes l band

/-- Rows in which no statement draws. -/
inductive FreeRow (d : Diagram) : Nat → Prop
  | space {i gap : Nat} {band : Band} {y : Nat} (here : d[i]? = some (.space gap))
      (placed : (ofDiagram d).bands[i]? = some band) (row : band.top ≤ y ∧ y < band.bottom) :
      FreeRow d y
  /-- The first row of a message lies above its text. -/
  | message {i : Nat} {sender receiver text : String} {band : Band}
      (here : d[i]? = some (.message sender receiver text))
      (placed : (ofDiagram d).bands[i]? = some band) : FreeRow d band.top
  /-- The lifelines go on for a row below the last statement. -/
  | last : FreeRow d ((ofDiagram d).height - 1)

variable {d : Diagram} {i x y : Nat} {s : Statement} {band : Band}

theorem bandAt_of_getElem? (here : d[i]? = some s)
    (placed : (ofDiagram d).bands[i]? = some band) : band = bandAt d i s := by
  rw [getElem?_bands, here] at placed
  exact (Option.some.inj placed).symm

/-! Statements and the order of drawing. -/

/-- Drawing a statement works on every canvas of the right size, and nothing outside the rows of the
statement is changed. -/
theorem draw_statement (placed : (s, band) ∈ d.zip (ofDiagram d).bands) {c : Canvas}
    (width : c.width = (ofDiagram d).width) (height : c.height = (ofDiagram d).height) :
    ∃ c', c.draw (s.strokes (ofDiagram d) band) = .ok c' ∧ c'.width = c.width ∧
      c'.height = c.height ∧
      ∀ x y, c'.cell x y ≠ c.cell x y → band.top ≤ y ∧ y < band.bottom := by
  obtain ⟨i, here, rfl⟩ := mem_zip_bands.1 placed
  have fit := fit_statement here
  rw [← width, ← height] at fit
  obtain ⟨c', drawn, width', height', cells⟩ := c.draw_of_fits _ fit
  refine ⟨c', drawn, width', height', fun x y changed => ?_⟩
  cases ink : Ink.ofStrokes (s.strokes (ofDiagram d) (bandAt d i s)) x y with
  | some ch => exact row_of_ink here ink
  | none =>
      rw [cells, ink, Option.none_or] at changed
      contradiction

/-- Two statements that draw at one point are the same. -/
theorem ink_unique {p q : Statement × Band} {ch ch' : Char}
    (hp : p ∈ d.zip (ofDiagram d).bands) (hq : q ∈ d.zip (ofDiagram d).bands)
    (ink : Ink.ofStrokes (p.1.strokes (ofDiagram d) p.2) x y = some ch)
    (ink' : Ink.ofStrokes (q.1.strokes (ofDiagram d) q.2) x y = some ch') : ch' = ch := by
  obtain ⟨s, _⟩ := p
  obtain ⟨t, _⟩ := q
  obtain ⟨i, here, rfl⟩ := mem_zip_bands.1 hp
  obtain ⟨j, there, rfl⟩ := mem_zip_bands.1 hq
  obtain rfl := band_unique here there (row_of_ink here ink) (row_of_ink there ink')
  rw [here] at there
  cases there
  rw [ink] at ink'
  exact (Option.some.inj ink').symm

theorem ink_strokesInOrder {order : List (Statement × Band)}
    (perm : order.Perm (d.zip (ofDiagram d).bands)) (x y : Nat) :
    Ink.ofStrokes ((ofDiagram d).strokesInOrder order) x y =
      Ink.ofStrokes ((ofDiagram d).strokes d) x y := by
  have statements := Ink.ofStrokes_flatMap_perm (x := x) (y := y)
    (f := fun p => p.1.strokes (ofDiagram d) p.2) perm.symm fun p hp q hq _ _ => ink_unique hp hq
  simp only [strokesInOrder, strokes, Ink.ofStrokes_append, Ink.overlay]
  exact congrArg (Option.or · _) statements.symm

theorem fit_strokesInOrder {order : List (Statement × Band)}
    (perm : order.Perm (d.zip (ofDiagram d).bands)) :
    ∀ s ∈ (ofDiagram d).strokesInOrder order,
      s.Fits (ofDiagram d).width (ofDiagram d).height := by
  intro s mem
  refine fit_strokes d s ?_
  refine (List.mem_append.1 mem).elim (List.mem_append_left _) fun drawn => ?_
  exact List.mem_append_right _ ((perm.flatMap_right _).mem_iff.1 drawn)

theorem draw_strokesInOrder {blank final : Canvas}
    (created : Canvas.blank (ofDiagram d).width (ofDiagram d).height = .ok blank)
    (drawn : (ofDiagram d).render d = .ok final) {order : List (Statement × Band)}
    (perm : order.Perm (d.zip (ofDiagram d).bands)) :
    blank.draw ((ofDiagram d).strokesInOrder order) = .ok final := by
  have drawn : blank.draw ((ofDiagram d).strokes d) = .ok final := by
    rw [render, created] at drawn
    exact drawn
  obtain ⟨width, height⟩ := Canvas.size_blank created
  have fit := fit_strokes d
  have fit' := fit_strokesInOrder perm
  rw [← width, ← height] at fit fit'
  obtain ⟨c, drawn', width', height', cells⟩ := blank.draw_of_fits _ fit
  obtain ⟨c', drawn'', width'', height'', cells'⟩ := blank.draw_of_fits _ fit'
  have same : c = final := Except.ok.inj (drawn'.symm.trans drawn)
  rw [drawn'', ← same]
  refine congrArg _ (Canvas.eq_of_cells (width''.trans width'.symm) (height''.trans height'.symm)
    fun x y => ?_)
  rw [cells, cells', ink_strokesInOrder perm]

/-! Rows without statements. -/

theorem bounds_of_header {column : Column} {stroke : Stroke} {ch : Char}
    (mem : stroke ∈ column.header) (ink : stroke.ink x y = some ch) : y < headerRows := by
  simp only [Column.header, List.mem_cons, List.not_mem_nil, or_false] at mem
  cases mem with
  | inl frame =>
      rw [frame] at ink
      have bounds := Ink.bounds_of_frame ink
      simp only [headerRows] at bounds ⊢
      omega
  | inr name =>
      rw [name] at ink
      have bounds := Ink.bounds_of_chars ink
      simp only [headerRows]
      omega

theorem headerRows_le_top (d : Diagram) (i : Nat) (s : Statement) :
    headerRows ≤ (bandAt d i s).top :=
  Nat.le_add_right _ _

theorem FreeRow.bounds (free : FreeRow d y) : headerRows ≤ y ∧ y < (ofDiagram d).height := by
  cases free with
  | @space i gap band y here placed row =>
      cases bandAt_of_getElem? here placed
      have high := headerRows_le_top d i (.space gap)
      have low := bottom_lt_height here
      omega
  | @message i sender receiver text band here placed =>
      cases bandAt_of_getElem? here placed
      have high := headerRows_le_top d i (.message sender receiver text)
      have rows := two_le_rows_of_message (d := d) (i := i) sender receiver text
      have low := bottom_lt_height here
      omega
  | last =>
      have height : (ofDiagram d).height = headerRows + d.rows + 1 := rfl
      omega

theorem FreeRow.no_ink (free : FreeRow d y) (x : Nat) : statementInk d x y = none := by
  cases ink : statementInk d x y with
  | none => rfl
  | some ch =>
      obtain ⟨⟨s, band⟩, mem, ink⟩ := Ink.exists_of_flatMap ink
      obtain ⟨j, there, rfl⟩ := mem_zip_bands.1 mem
      have row := row_of_ink there ink
      cases free with
      | space here placed row' =>
          cases bandAt_of_getElem? here placed
          obtain rfl := band_unique here there row' row
          rw [here] at there
          cases there
          contradiction
      | @message i sender receiver text band here placed =>
          cases bandAt_of_getElem? here placed
          have rows := two_le_rows_of_message (d := d) (i := i) sender receiver text
          obtain rfl := band_unique here there ⟨Nat.le_refl _, by omega⟩ row
          rw [here] at there
          cases there
          have below := row_of_message (List.mem_of_getElem? here) ink
          omega
      | last =>
          have low := bottom_lt_height there
          omega

/-- Below the boxes, the strokes that come before the statements draw lifelines only. -/
theorem ink_frameStrokes (below : headerRows ≤ y) (above : y < (ofDiagram d).height) (x : Nat) :
    Ink.ofStrokes (ofDiagram d).frameStrokes x y =
      if ∃ column ∈ (ofDiagram d).columns, column.lifeline = x then some Glyph.vertical
      else none := by
  split
  · next on =>
      obtain ⟨column, mem, rfl⟩ := on
      obtain ⟨k, name, here, rfl⟩ := mem_columns mem
      obtain ⟨inside, _⟩ := List.getElem?_eq_some_iff.1 here
      exact frameStrokes_of_lifeline inside below above
  · next off =>
      cases ink : Ink.ofStrokes (ofDiagram d).frameStrokes x y with
      | none => rfl
      | some ch =>
          exfalso
          obtain ⟨s, mem, ink⟩ := Ink.exists_of_ofStrokes ink
          cases List.mem_append.1 mem with
          | inl header =>
              obtain ⟨column, _, header⟩ := List.mem_flatMap.1 header
              have row := bounds_of_header header ink
              omega
          | inr line =>
              obtain ⟨column, here, rfl⟩ := List.mem_map.1 line
              have bounds := (Ink.bounds_of_block ink).1
              exact off ⟨column, here, by omega⟩

/-- On the final drawing a free row holds nothing but the lifelines. -/
theorem cell_of_freeRow {final : Canvas} (drawn : (ofDiagram d).render d = .ok final)
    (free : FreeRow d y) (x : Nat) :
    final.cell x y =
      if ∃ column ∈ (ofDiagram d).columns, column.lifeline = x then some Glyph.vertical
      else none := by
  obtain ⟨below, above⟩ := free.bounds
  rw [cell_eq_or drawn, free.no_ink x, Option.none_or, ink_frameStrokes below above]

/-- A statement changes only the rows of its band. So the statements may be drawn in any order, each
in its own band: nothing fails, and the drawing is the same. Free rows hold the lifelines only. -/
theorem drawing_order_irrelevant {blank : Canvas}
    (created : Canvas.blank (ofDiagram d).width (ofDiagram d).height = .ok blank) :
    (∀ s band, (s, band) ∈ d.zip (ofDiagram d).bands →
      ∀ c : Canvas, c.width = blank.width → c.height = blank.height →
        ∃ c', c.draw (s.strokes (ofDiagram d) band) = .ok c' ∧ c'.width = c.width ∧
          c'.height = c.height ∧
          ∀ x y, c'.cell x y ≠ c.cell x y → band.top ≤ y ∧ y < band.bottom) ∧
    ∃ final, (ofDiagram d).render d = .ok final ∧
      (∀ order, order.Perm (d.zip (ofDiagram d).bands) →
        blank.draw ((ofDiagram d).strokesInOrder order) = .ok final) ∧
      ∀ y, FreeRow d y → ∀ x, final.cell x y =
        if ∃ column ∈ (ofDiagram d).columns, column.lifeline = x then some Glyph.vertical
        else none := by
  obtain ⟨width, height⟩ := Canvas.size_blank created
  refine ⟨?_, ?_⟩
  · intro s band placed c width' height'
    exact draw_statement placed (width'.trans width) (height'.trans height)
  · obtain ⟨final, drawn, _⟩ := render_of_small d (Canvas.le_maxCells created)
    refine ⟨final, drawn, fun order perm => draw_strokesInOrder created drawn perm, ?_⟩
    exact fun y free x => cell_of_freeRow drawn free x

/-- The loop first, then a message, then a note; nothing is drawn in the rows between them. -/
theorem drawing_order_irrelevant_backwards :
    let d : Diagram := [.note .right "b" "up\nhere", .space 2, .message "a" "b" "on",
      .message "a" "a" ""]
    ∃ blank final, Canvas.blank (ofDiagram d).width (ofDiagram d).height = .ok blank ∧
      (ofDiagram d).render d = .ok final ∧
      blank.draw ((ofDiagram d).strokesInOrder (d.zip (ofDiagram d).bands).reverse) = .ok final ∧
      final.cell 2 8 = some Glyph.vertical ∧ final.cell 5 8 = none := by
  intro d
  have created : Canvas.blank (ofDiagram d).width (ofDiagram d).height = .ok _ :=
    Canvas.blank_eq_ok_iff.2 ⟨by decide, rfl⟩
  obtain ⟨_, final, drawn, orders, free⟩ := drawing_order_irrelevant created
  have gap : FreeRow d 8 := .space (i := 1) rfl rfl (by decide)
  exact ⟨_, final, created, drawn, orders _ (List.reverse_perm _),
    (free 8 gap 2).trans (if_pos (by decide)), (free 8 gap 5).trans (if_neg (by decide))⟩

end Layout

end SequenceChart
