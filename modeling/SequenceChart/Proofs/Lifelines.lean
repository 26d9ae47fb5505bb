import SequenceChart.Proofs.Fit
import SequenceChart.Proofs.Trimming

/-!
Lifelines in the finished drawing. Only the arrow and the text of a message between participants on
both sides are drawn across a lifeline; everything else stands beside it, so below the boxes a
lifeline runs through to the last row.
-/

namespace SequenceChart

/-- The lines of a text as drawn hold only characters of the text. -/
theorem mem_of_mem_textLines {text line : String} {c : Char} (part : line ∈ textLines text)
    (mem : c ∈ line.toList) : c ∈ text.toList := by
  unfold textLines at part
  split at part
  · contradiction
  · obtain ⟨piece, cut, rfl⟩ := List.mem_map.1 part
    exact (Text.mem_of_mem_splitLines cut ((Text.trim_isInfix piece).mem mem)).1

/-- Whether a message runs between participants on both sides of the participant at a position. -/
def Placement.Crosses (k : Nat) : Placement → Prop
  | .message sender receiver => min sender receiver < k ∧ k < max sender receiver
  | .declaration | .note .. | .space => False

instance (k : Nat) : (p : Placement) → Decidable (p.Crosses k)
  | .message sender receiver =>
    inferInstanceAs (Decidable (min sender receiver < k ∧ k < max sender receiver))
  | .declaration | .note .. | .space => .isFalse id

namespace Statement

variable {x' y' : Nat} {text : String} {ch : Char}

theorem label_of_textStrokes {start : String → Nat} {top : Nat} {s : Stroke}
    (mem : s ∈ textStrokes start top text) (ink : s.ink x' y' = some ch) :
    ch ∈ text.toList ∧ ch ≠ ' ' := by
  obtain ⟨⟨line, k⟩, place, rfl⟩ := List.mem_map.1 mem
  have part := List.mem_of_getElem? (List.mem_zipIdx_iff_getElem?.1 place)
  obtain ⟨_, _, _, mem, visible⟩ := Ink.bounds_of_chars ink
  exact ⟨mem_of_mem_textLines part mem, visible⟩

/-! The strokes of a message: its text, and below it the line of the arrow and the tip. -/

section

variable {start : String → Nat} {top left right tip arrow : Nat} {line point : Char}

theorem arrow_of_strokes (between : min left right ≤ x' ∧ x' ≤ max left right)
    (beside : x' ≠ tip) :
    Ink.ofStrokes (textStrokes start top text ++
      [.hline left right arrow line, .glyph tip arrow point]) x' arrow = some line := by
  rw [Ink.ofStrokes_append]
  simp only [Ink.overlay, Ink.ofStrokes, Stroke.ink, Ink.none]
  rw [Ink.block, if_neg (by omega), Ink.block, if_pos (by omega)]
  rfl

theorem label_of_strokes (above : y' < arrow)
    (ink : Ink.ofStrokes (textStrokes start top text ++
      [.hline left right arrow line, .glyph tip arrow point]) x' y' = some ch) :
    ch ∈ text.toList ∧ ch ≠ ' ' := by
  obtain ⟨s, mem, ink⟩ := Ink.exists_of_ofStrokes ink
  simp only [List.mem_append, List.mem_cons, List.not_mem_nil, or_false] at mem
  rcases mem with label | rfl | rfl
  · exact label_of_textStrokes label ink
  · have := (Ink.bounds_of_block ink).1
    omega
  · have := (Ink.bounds_of_block ink).1
    omega

end

end Statement

namespace Layout

variable {d : Diagram} {i k x y : Nat} {s : Statement} {name sender receiver text : String}
  {side : Side} {ch : Char}

/-! What a statement draws in the column of a lifeline. -/

theorem crosses_of_message (mem : .message sender receiver text ∈ d)
    (here : k < d.participants.length)
    (ink : Ink.ofStrokes ((Statement.message sender receiver text).strokes (ofDiagram d)
      (bandAt d i (.message sender receiver text))) (lifelineAt d k) y = some ch) :
    (Statement.placement d.participants (.message sender receiver text)).Crosses k := by
  have sender_here := List.idxOf_lt_length_of_mem (sender_mem mem)
  have receiver_here := List.idxOf_lt_length_of_mem (receiver_mem mem)
  simp only [Statement.placement, Placement.Crosses]
  rcases message_cases mem with rfl | before | behind
  · have bounds := Ink.bounds_of_inside (inside_selfMessage mem i) ink
    have next := clear_of_selfMessage mem rfl rfl
    rcases Nat.lt_or_ge (d.participants.idxOf sender) k with right | left
    · have := lifelineAt_le (show d.participants.idxOf sender + 1 ≤ k from right) here
      omega
    · have := lifelineAt_le left sender_here
      omega
  · have bounds := Ink.bounds_of_inside (inside_rightwardMessage mem before i) ink
    have left : d.participants.idxOf sender < k := by
      by_contra le
      have := lifelineAt_le (Nat.le_of_not_lt le) sender_here
      omega
    have right : k < d.participants.idxOf receiver := by
      by_contra le
      have := lifelineAt_le (Nat.le_of_not_lt le) here
      omega
    omega
  · have bounds := Ink.bounds_of_inside (inside_leftwardMessage mem behind i) ink
    have left : d.participants.idxOf receiver < k := by
      by_contra le
      have := lifelineAt_le (Nat.le_of_not_lt le) receiver_here
      omega
    have right : k < d.participants.idxOf sender := by
      by_contra le
      have := lifelineAt_le (Nat.le_of_not_lt le) here
      omega
    omega

theorem ink_of_note (mem : .note side name text ∈ d) (here : k < d.participants.length) :
    Ink.ofStrokes ((Statement.note side name text).strokes (ofDiagram d)
      (bandAt d i (.note side name text))) (lifelineAt d k) y = none := by
  have note_here := List.idxOf_lt_length_of_mem (participant_mem mem)
  cases ink : Ink.ofStrokes _ (lifelineAt d k) y with
  | none => rfl
  | some ch =>
      exfalso
      cases side with
      | left =>
          have bounds := Ink.bounds_of_inside (inside_leftNote mem i) ink
          rcases Nat.lt_or_ge k (d.participants.idxOf name) with left | right
          · obtain ⟨j, next⟩ : ∃ j, d.participants.idxOf name = j + 1 :=
              Nat.exists_eq_succ_of_ne_zero (by omega)
            have gap := clear_of_leftNote mem next
            have := lifelineAt_le (d := d) (show k ≤ j by omega) (by omega)
            rw [next] at bounds
            omega
          · have := lifelineAt_le right here
            have := leftReach_le_lifelineAt (List.getElem?_idxOf (participant_mem mem))
            have := leftNote_le_leftReach mem
            omega
      | right =>
          have bounds := Ink.bounds_of_inside (inside_rightNote mem i) ink
          have gap := clear_of_rightNote mem rfl
          rcases Nat.lt_or_ge (d.participants.idxOf name) k with right | left
          · have := lifelineAt_le (show d.participants.idxOf name + 1 ≤ k from right) here
            have := two_le_halfAt (d := d) (i := d.participants.idxOf name + 1) (by omega)
            omega
          · have := lifelineAt_le left note_here
            omega

theorem ink_of_not_crosses (here : d[i]? = some s) (inside : k < d.participants.length)
    (apart : ¬ (s.placement d.participants).Crosses k) :
    Ink.ofStrokes (s.strokes (ofDiagram d) (bandAt d i s)) (lifelineAt d k) y = none := by
  cases ink : Ink.ofStrokes _ (lifelineAt d k) y with
  | none => rfl
  | some ch =>
      have mem := List.mem_of_getElem? here
      cases s with
      | declare _ | space _ => contradiction
      | message sender receiver text => exact (apart (crosses_of_message mem inside ink)).elim
      | note side name text =>
          rw [ink_of_note mem inside] at ink
          contradiction

theorem two_le_rows_of_message (sender receiver text : String) :
    (bandAt d i (.message sender receiver text)).top + 2 ≤
      (bandAt d i (.message sender receiver text)).bottom := by
  have rows := bottom_eq d i (.message sender receiver text)
  simp only [Statement.rows, selfMessageRows, messageRows] at rows
  split at rows <;> omega

/-- A message leaves the first row of its band free. -/
theorem row_of_message (mem : .message sender receiver text ∈ d)
    (ink : Ink.ofStrokes ((Statement.message sender receiver text).strokes (ofDiagram d)
      (bandAt d i (.message sender receiver text))) x y = some ch) :
    (bandAt d i (.message sender receiver text)).top + 1 ≤ y ∧
      y < (bandAt d i (.message sender receiver text)).bottom := by
  have rows := two_le_rows_of_message (d := d) (i := i) sender receiver text
  rcases message_cases mem with rfl | before | behind
  · have := Ink.bounds_of_inside (inside_selfMessage mem i) ink
    omega
  · have := Ink.bounds_of_inside (inside_rightwardMessage mem before i) ink
    omega
  · have := Ink.bounds_of_inside (inside_leftwardMessage mem behind i) ink
    omega

/-- Only statements of whose band a row is part draw in this row. -/
theorem row_of_ink (here : d[i]? = some s)
    (ink : Ink.ofStrokes (s.strokes (ofDiagram d) (bandAt d i s)) x y = some ch) :
    (bandAt d i s).top ≤ y ∧ y < (bandAt d i s).bottom := by
  have mem := List.mem_of_getElem? here
  cases s with
  | declare _ | space _ => contradiction
  | message sender receiver text =>
      have := row_of_message mem ink
      omega
  | note side name text =>
      have rows := bottom_eq d i (.note side name text)
      have some_rows : 0 < (Statement.note side name text).rows := Nat.succ_pos _
      cases side with
      | left =>
          have := Ink.bounds_of_inside (inside_leftNote mem i) ink
          omega
      | right =>
          have := Ink.bounds_of_inside (inside_rightNote mem i) ink
          omega

/-- The ink of all statements. -/
def statementInk (d : Diagram) : Ink :=
  .ofStrokes ((d.zip (ofDiagram d).bands).flatMap fun (s, band) => s.strokes (ofDiagram d) band)

/-- The statements are drawn over the boxes and the lifelines. -/
theorem cell_eq_or {c : Canvas} (drawn : (ofDiagram d).render d = .ok c) (x y : Nat) :
    c.cell x y = (statementInk d x y).or (Ink.ofStrokes (ofDiagram d).frameStrokes x y) := by
  rw [cell_of_render drawn, strokes, Ink.ofStrokes_append]
  rfl

/-- In the rows of a statement only this statement draws. -/
theorem statementInk_of_row (here : d[i]? = some s)
    (row : (bandAt d i s).top ≤ y ∧ y < (bandAt d i s).bottom) :
    statementInk d x y = Ink.ofStrokes (s.strokes (ofDiagram d) (bandAt d i s)) x y := by
  refine Ink.ofStrokes_flatMap (p := (s, bandAt d i s)) (mem_zip_bands.2 ⟨i, here, rfl⟩) ?_
  rintro ⟨t, band⟩ mem ch ink
  obtain ⟨j, there, rfl⟩ := mem_zip_bands.1 mem
  obtain rfl := band_unique here there row (row_of_ink there ink)
  rw [here] at there
  cases there
  exact ink

/-- Below the boxes, the lifelines are drawn before everything else. -/
theorem frameStrokes_of_lifeline (inside : k < d.participants.length) (below : headerRows ≤ y)
    (above : y < (ofDiagram d).height) :
    Ink.ofStrokes (ofDiagram d).frameStrokes (lifelineAt d k) y = some Glyph.vertical := by
  have column := getElem?_columns d k
  rw [List.getElem?_eq_getElem inside] at column
  have drawn : Ink.ofStrokes ((ofDiagram d).columns.map (·.line (ofDiagram d).height))
      (lifelineAt d k) y = some Glyph.vertical := by
    have this_line : (Stroke.vline (lifelineAt d k) headerRows ((ofDiagram d).height - 1)
        Glyph.vertical).ink (lifelineAt d k) y = some Glyph.vertical :=
      Ink.block_of_bounds _ (by omega)
    rw [List.map_eq_flatMap, Ink.ofStrokes_flatMap (List.mem_of_getElem? column)]
    · exact this_line
    · intro c _ ch ink
      obtain ⟨s, line, ink⟩ := Ink.exists_of_ofStrokes ink
      cases List.mem_singleton.1 line
      rw [(Ink.bounds_of_block ink).2]
      exact this_line
  rw [frameStrokes, Ink.ofStrokes_append, Ink.overlay, drawn, Option.some_or]

theorem cell_of_lifeline {c : Canvas} (drawn : (ofDiagram d).render d = .ok c)
    (inside : k < d.participants.length) (below : headerRows ≤ y)
    (above : y < (ofDiagram d).height) :
    c.cell (lifelineAt d k) y =
      (statementInk d (lifelineAt d k) y).or (some Glyph.vertical) := by
  rw [cell_eq_or drawn, frameStrokes_of_lifeline inside below above]

/-! Messages that cross a lifeline. -/

theorem arrow_of_crossing (mem : .message sender receiver text ∈ d)
    (crosses : (Statement.placement d.participants (.message sender receiver text)).Crosses k) :
    Ink.ofStrokes ((Statement.message sender receiver text).strokes (ofDiagram d)
      (bandAt d i (.message sender receiver text))) (lifelineAt d k)
      ((bandAt d i (.message sender receiver text)).bottom - 1) = some Glyph.horizontal := by
  have sender_here := List.idxOf_lt_length_of_mem (sender_mem mem)
  have receiver_here := List.idxOf_lt_length_of_mem (receiver_mem mem)
  simp only [Statement.placement, Placement.Crosses] at crosses
  rcases message_cases mem with rfl | before | behind
  · omega
  · rw [strokes_rightward mem before]
    have inside : k < d.participants.length := by omega
    have left := lifelineAt_lt (show d.participants.idxOf sender < k by omega) inside
    have right := clear_of_lt (show k < d.participants.idxOf receiver by omega) receiver_here
    exact Statement.arrow_of_strokes (by omega) (by omega)
  · rw [strokes_leftward mem behind]
    have inside : k < d.participants.length := by omega
    have left := clear_of_lt (show d.participants.idxOf receiver < k by omega) inside
    have right := lifelineAt_lt (show k < d.participants.idxOf sender by omega) sender_here
    exact Statement.arrow_of_strokes (by omega) (by omega)

theorem label_of_crossing (mem : .message sender receiver text ∈ d)
    (crosses : (Statement.placement d.participants (.message sender receiver text)).Crosses k)
    (above : y < (bandAt d i (.message sender receiver text)).bottom - 1)
    (ink : Ink.ofStrokes ((Statement.message sender receiver text).strokes (ofDiagram d)
      (bandAt d i (.message sender receiver text))) x y = some ch) :
    ch ∈ text.toList ∧ ch ≠ ' ' := by
  simp only [Statement.placement, Placement.Crosses] at crosses
  rcases message_cases mem with rfl | before | behind
  · omega
  · rw [strokes_rightward mem before] at ink
    exact Statement.label_of_strokes above ink
  · rw [strokes_leftward mem behind] at ink
    exact Statement.label_of_strokes above ink

theorem below_top_of_crossing (here : d[i]? = some s)
    (crosses : (s.placement d.participants).Crosses k)
    (ink : Ink.ofStrokes (s.strokes (ofDiagram d) (bandAt d i s)) x y = some ch) :
    (bandAt d i s).top + 1 ≤ y := by
  have mem := List.mem_of_getElem? here
  cases s with
  | declare _ | space _ | note _ _ _ => contradiction
  | message sender receiver text => exact (row_of_message mem ink).1

/-- Below the boxes a lifeline is broken only by messages that cross it: by their arrow, and by the
characters of their text. No statement that does not cross it draws in its column at all. -/
theorem lifeline_intact {c : Canvas} (drawn : (ofDiagram d).render d = .ok c) {column : Column}
    (here : (ofDiagram d).columns[k]? = some column) (below : headerRows ≤ y)
    (above : y < (ofDiagram d).height) :
    (∀ (i : Nat) (sender receiver text : String) (band : Band),
      d[i]? = some (.message sender receiver text) → (ofDiagram d).bands[i]? = some band →
      band.placement.Crosses k →
        (y = band.bottom - 1 → c.cell column.lifeline y = some Glyph.horizontal) ∧
        (band.top + 1 ≤ y → y < band.bottom - 1 →
          c.cell column.lifeline y = some Glyph.vertical ∨
            ∃ ch ∈ text.toList, ch ≠ ' ' ∧ c.cell column.lifeline y = some ch)) ∧
    ((∀ (i : Nat) (band : Band), (ofDiagram d).bands[i]? = some band → band.placement.Crosses k →
        ¬ (band.top + 1 ≤ y ∧ y < band.bottom)) →
      c.cell column.lifeline y = some Glyph.vertical) ∧
    ∀ (i : Nat) (s : Statement) (band : Band), d[i]? = some s →
      (ofDiagram d).bands[i]? = some band → ¬ band.placement.Crosses k →
        Ink.ofStrokes (s.strokes (ofDiagram d) band) column.lifeline y = none := by
  rw [getElem?_columns] at here
  obtain ⟨name, there, rfl⟩ := Option.map_eq_some_iff.1 here
  obtain ⟨inside, _⟩ := List.getElem?_eq_some_iff.1 there
  have cell : c.cell (lifelineAt d k) y = _ := cell_of_lifeline drawn inside below above
  change (∀ _ _ _ _ _, _ → _ → _ → (_ → c.cell (lifelineAt d k) y = _) ∧ _) ∧ _
  simp only [columnOf]
  refine ⟨?_, ?_, ?_⟩
  · intro i sender receiver text band message placed crosses
    have mem := List.mem_of_getElem? message
    rw [getElem?_bands, message] at placed
    cases placed
    have rows := two_le_rows_of_message (d := d) (i := i) sender receiver text
    constructor
    · rintro rfl
      rw [cell, statementInk_of_row message ⟨by omega, by omega⟩, arrow_of_crossing mem crosses,
        Option.some_or]
    · intro first last
      rw [cell, statementInk_of_row message ⟨by omega, by omega⟩]
      cases ink : Ink.ofStrokes _ (lifelineAt d k) y with
      | none => exact .inl (Option.none_or)
      | some ch =>
          obtain ⟨mem_text, visible⟩ := label_of_crossing mem crosses last ink
          exact .inr ⟨ch, mem_text, visible, rfl⟩
  · intro free
    cases ink : statementInk d (lifelineAt d k) y with
    | none => rw [cell, ink, Option.none_or]
    | some ch =>
        exfalso
        obtain ⟨⟨s, band⟩, mem, ink⟩ := Ink.exists_of_flatMap ink
        obtain ⟨i, statement, rfl⟩ := mem_zip_bands.1 mem
        have placed : (ofDiagram d).bands[i]? = some (bandAt d i s) := by
          rw [getElem?_bands, statement]
          rfl
        by_cases crosses : (s.placement d.participants).Crosses k
        · exact free i _ placed crosses
            ⟨below_top_of_crossing statement crosses ink, (row_of_ink statement ink).2⟩
        · rw [ink_of_not_crosses statement inside crosses] at ink
          contradiction
  · intro i s band statement placed apart
    rw [getElem?_bands, statement] at placed
    cases placed
    exact ink_of_not_crosses statement inside apart

theorem lifeline_intact_between : ∃ c column,
    (ofDiagram [.declare ["a", "b", "c"], .message "c" "a" "on"]).columns[1]? = some column ∧
      (ofDiagram [.declare ["a", "b", "c"], .message "c" "a" "on"]).render
        [.declare ["a", "b", "c"], .message "c" "a" "on"] = .ok c ∧
      c.cell column.lifeline 5 = some Glyph.horizontal ∧
      c.cell column.lifeline 6 = some Glyph.vertical := by
  obtain ⟨c, drawn, _⟩ :=
    render_of_small [.declare ["a", "b", "c"], .message "c" "a" "on"] (by decide)
  have here : (ofDiagram [.declare ["a", "b", "c"], .message "c" "a" "on"]).columns[1]? = some _ :=
    rfl
  refine ⟨c, _, here, drawn, ?_, ?_⟩
  · exact ((lifeline_intact drawn here (by decide) (by decide)).1 1 "c" "a" "on" _ rfl rfl
      (by decide)).1 rfl
  · refine (lifeline_intact drawn here (by decide) (by decide)).2.1 fun i band there _ row => ?_
    rw [getElem?_bands] at there
    obtain ⟨s, statement, rfl⟩ := Option.map_eq_some_iff.1 there
    have : _ < 7 := bottom_lt_height statement
    omega

end Layout

end SequenceChart
