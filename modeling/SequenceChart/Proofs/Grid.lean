import SequenceChart.Proofs.Overrun

/-!
A canvas as a map from points to characters. Every stroke that fits lays its ink over the map, and
one that does not fit leaves the map alone; the array of cells holds this map row after row,
whatever has been tried before. Ink never fades: a cell with a character keeps one.
-/

namespace SequenceChart

instance (w h : Nat) (s : Stroke) : Decidable (s.Fits w h) :=
  match s with
  | .glyph x y _ => inferInstanceAs (Decidable (x < w ∧ y < h))
  | .text x y s => inferInstanceAs (Decidable (s ≠ "" → x + s.length ≤ w ∧ y < h))
  | .hline x0 x1 y _ => inferInstanceAs (Decidable (max x0 x1 < w ∧ y < h))
  | .vline x y0 y1 _ => inferInstanceAs (Decidable (x < w ∧ max y0 y1 < h))
  | .frame x0 y0 x1 y1 => inferInstanceAs (Decidable (max x0 x1 < w ∧ max y0 y1 < h))

namespace Ink

/-- The map of a grid of this size after a stroke was tried on it. -/
def attempt (w h : Nat) (map : Ink) (s : Stroke) : Ink :=
  if s.Fits w h then overlay s.ink map else map

/-- The map of a grid that was blank, after strokes were tried on it one after the other. -/
def attempts (w h : Nat) (ss : List Stroke) : Ink :=
  ss.foldl (attempt w h) none

end Ink

namespace Canvas

variable {w h : Nat} {c : Canvas}

theorem cell_attempt (c : Canvas) (s : Stroke) :
    (c.attempt s).cell = Ink.attempt c.width c.height c.cell s := by
  cases s.draw_cases c with
  | inl drawn =>
      obtain ⟨fits, c', drawn, _, _, cells⟩ := drawn
      rw [attempt_of_drawn drawn, Ink.attempt, if_pos fits]
      funext x y
      exact cells x y
  | inr failed =>
      obtain ⟨long, failed⟩ := failed
      rw [attempt_of_failed failed, Ink.attempt, if_neg long]

theorem cell_attempts (c : Canvas) (ss : List Stroke) :
    (c.attempts ss).cell = ss.foldl (Ink.attempt c.width c.height) c.cell := by
  induction ss generalizing c with
  | nil => rfl
  | cons s ss ih =>
      obtain ⟨width, height⟩ := size_attempt c s
      have rest := ih (c.attempt s)
      rw [width, height, cell_attempt] at rest
      exact rest

theorem cell_attempts_blank {start : Canvas} (created : blank w h = .ok start)
    (ss : List Stroke) : (start.attempts ss).cell = Ink.attempts w h ss := by
  obtain ⟨rfl, rfl⟩ := size_blank created
  have nothing : start.cell = Ink.none := by
    funext x y
    exact cell_blank created
  rw [cell_attempts, nothing, Ink.attempts]

/-- Ink lies over what was there, so a cell with a character is not blanked. -/
theorem cell_attempt_ne_none {x y : Nat} (s : Stroke) (inked : c.cell x y ≠ none) :
    (c.attempt s).cell x y ≠ none := by
  rw [cell_attempt, Ink.attempt]
  split
  · exact fun blank => inked (Option.or_eq_none_iff.1 blank).2
  · exact inked

theorem drawn_iff_fits (c : Canvas) (s : Stroke) :
    (∃ c', s.draw c = .ok () c') ↔ s.Fits c.width c.height := by
  cases s.draw_cases c with
  | inl drawn =>
      obtain ⟨fits, c', drawn, _⟩ := drawn
      simp [fits, drawn]
  | inr failed =>
      obtain ⟨long, x, y, _, _, failed⟩ := failed
      simp [long, failed]

theorem read_eq (c : Canvas) (x y : Nat) :
    Drawing.read x y c = if x < c.width ∧ y < c.height then .ok (c.cell x y) c
      else .error (.outOfBounds x y c.width c.height) c := by
  change EStateM.bind (Drawing.check x y) (fun _ => _) c = _
  by_cases inside : x < c.width ∧ y < c.height
  · rw [if_pos inside, EStateM.bind, Drawing.check_of_inside inside]
    rfl
  · rw [if_neg inside, EStateM.bind, Drawing.check_of_outside inside]

/-- A frame does not depend on which two opposite corners name it. -/
theorem draw_frame_comm (x0 y0 x1 y1 : Nat) :
    (Stroke.frame x1 y0 x0 y1).draw = (Stroke.frame x0 y0 x1 y1).draw ∧
      (Stroke.frame x0 y1 x1 y0).draw = (Stroke.frame x0 y0 x1 y1).draw ∧
        (Stroke.frame x1 y1 x0 y0).draw = (Stroke.frame x0 y0 x1 y1).draw := by
  simp only [Stroke.draw, Drawing.frame, Nat.min_comm x1, Nat.max_comm x1, Nat.min_comm y1,
    Nat.max_comm y1, and_self]

/-- Whatever strokes have been tried on a canvas that was blank, its cells are those of the map
that the strokes make: what is read at a point is the character of the map, the next stroke is drawn
if it fits and is then laid over the map, and no character is ever lost to a blank. -/
theorem cells_follow_map {start : Canvas} (created : blank w h = .ok start) (ss : List Stroke) :
    (w * h ≤ maxCells ∧ (start.attempts ss).cells.size = w * h) ∧
    (∀ x y, Drawing.read x y (start.attempts ss) =
      if x < w ∧ y < h then .ok (Ink.attempts w h ss x y) (start.attempts ss)
      else .error (.outOfBounds x y w h) (start.attempts ss)) ∧
    (∀ s, ((∃ c', s.draw (start.attempts ss) = .ok () c') ↔ s.Fits w h) ∧
      Ink.attempts w h (ss ++ [s]) =
        if s.Fits w h then Ink.overlay s.ink (Ink.attempts w h ss) else Ink.attempts w h ss) ∧
    (∀ s x y, (start.attempts ss).cell x y ≠ none →
      (start.attempts (ss ++ [s])).cell x y ≠ none) ∧
    ∀ x0 y0 x1 y1, (Stroke.frame x1 y0 x0 y1).draw = (Stroke.frame x0 y0 x1 y1).draw ∧
      (Stroke.frame x0 y1 x1 y0).draw = (Stroke.frame x0 y0 x1 y1).draw ∧
        (Stroke.frame x1 y1 x0 y0).draw = (Stroke.frame x0 y0 x1 y1).draw := by
  obtain ⟨width, height⟩ := size_blank created
  obtain ⟨same_width, same_height⟩ := size_attempts start ss
  rw [width] at same_width
  rw [height] at same_height
  refine ⟨⟨le_maxCells created, ?_⟩, ?_, ?_, ?_, draw_frame_comm⟩
  · rw [(start.attempts ss).size_cells, same_width, same_height]
  · intro x y
    rw [read_eq, same_width, same_height, cell_attempts_blank created]
  · intro s
    have drawn := drawn_iff_fits (start.attempts ss) s
    rw [same_width, same_height] at drawn
    refine ⟨drawn, ?_⟩
    rw [Ink.attempts, List.foldl_append]
    rfl
  · intro s x y inked
    rw [attempts, List.foldl_append]
    exact cell_attempt_ne_none s inked

/-- A label over a frame that was drawn from its lower right corner, with a stroke between them
that does not fit. -/
theorem cells_follow_map_overdrawn : ∃ start, blank 5 3 = .ok start ∧
    Drawing.read 3 0 (start.attempts [.frame 4 2 0 0, .hline 1 5 1 'x', .text 2 0 " y"]) =
      .ok (some 'y') (start.attempts [.frame 4 2 0 0, .hline 1 5 1 'x', .text 2 0 " y"]) ∧
    Drawing.read 2 0 (start.attempts [.frame 4 2 0 0, .hline 1 5 1 'x', .text 2 0 " y"]) =
      .ok (some '-') (start.attempts [.frame 4 2 0 0, .hline 1 5 1 'x', .text 2 0 " y"]) ∧
    Drawing.read 1 1 (start.attempts [.frame 4 2 0 0, .hline 1 5 1 'x', .text 2 0 " y"]) =
      .ok none (start.attempts [.frame 4 2 0 0, .hline 1 5 1 'x', .text 2 0 " y"]) := by
  have created : blank 5 3 = .ok _ := rfl
  have cells := (cells_follow_map created
    [.frame 4 2 0 0, .hline 1 5 1 'x', .text 2 0 " y"]).2.1
  exact ⟨_, created, cells 3 0, cells 2 0, cells 1 1⟩

end Canvas

end SequenceChart
