import SequenceChart.Proofs.Ink

/-!
Strokes that leave the canvas. Whether a stroke fails is decided by its outermost points before
anything is written; so a stroke that fails changes nothing, however it came to the canvas that it
was drawn on, and what it names is a point of its own outside the canvas.
-/

namespace SequenceChart

/-- The points of the smallest rectangle that holds two given points. -/
def Spanned (x0 y0 x1 y1 x y : Nat) : Prop :=
  min x0 x1 ≤ x ∧ x ≤ max x0 x1 ∧ min y0 y1 ≤ y ∧ y ≤ max y0 y1

namespace Stroke

/-- The points that the stroke passes, whether it leaves ink there or not. -/
def Covers : Stroke → Nat → Nat → Prop
  | .glyph x0 y0 _ => fun x y => x = x0 ∧ y = y0
  | .text x0 y0 s => fun x y => x0 ≤ x ∧ x < x0 + s.length ∧ y = y0
  | .hline x0 x1 y0 _ => Spanned x0 y0 x1 y0
  | .vline x0 y0 y1 _ => Spanned x0 y0 x0 y1
  | .frame x0 y0 x1 y1 => fun x y =>
    Spanned x0 y0 x1 y1 x y ∧ (x = x0 ∨ x = x1 ∨ y = y0 ∨ y = y1)

/-- The stroke leaves a canvas of this size. Of a text the last character decides, also where it is
a space; of a line or a frame, the smallest rectangle that holds its ends or corners. -/
def Overruns (w h : Nat) : Stroke → Prop
  | .glyph x y _ => ¬ (x < w ∧ y < h)
  | .text x y s => s ≠ "" ∧ ¬ (x + s.length - 1 < w ∧ y < h)
  | .hline x0 x1 y0 _ => ∃ x y, Spanned x0 y0 x1 y0 x y ∧ ¬ (x < w ∧ y < h)
  | .vline x0 y0 y1 _ => ∃ x y, Spanned x0 y0 x0 y1 x y ∧ ¬ (x < w ∧ y < h)
  | .frame x0 y0 x1 y1 => ∃ x y, Spanned x0 y0 x1 y1 x y ∧ ¬ (x < w ∧ y < h)

end Stroke

/-- A rectangle lies on a canvas if its corner on the lower right does. -/
theorem spanned_inside_iff {w h x0 y0 x1 y1 : Nat} :
    (∃ x y, Spanned x0 y0 x1 y1 x y ∧ ¬ (x < w ∧ y < h)) ↔
      ¬ (max x0 x1 < w ∧ max y0 y1 < h) := by
  constructor
  · intro outside inside
    obtain ⟨x, y, spanned, outside⟩ := outside
    simp only [Spanned] at spanned
    omega
  · intro outside
    refine ⟨max x0 x1, max y0 y1, ?_, outside⟩
    simp only [Spanned]
    omega

theorem Stroke.overruns_iff {w h : Nat} (s : Stroke) : s.Overruns w h ↔ ¬ s.Fits w h := by
  cases s with
  | glyph x y ch => exact Iff.rfl
  | text x y s =>
      simp only [Overruns, Fits]
      by_cases empty : s = ""
      · simp [empty]
      · have := Nat.pos_of_ne_zero (mt String.length_eq_zero_iff.1 empty)
        simp only [ne_eq, empty, not_false_eq_true, true_and, forall_const]
        omega
  | hline x0 x1 y ch => simp only [Overruns, Fits, spanned_inside_iff, Nat.max_self]
  | vline x y0 y1 ch => simp only [Overruns, Fits, spanned_inside_iff, Nat.max_self]
  | frame x0 y0 x1 y1 => exact spanned_inside_iff

namespace Drawing

variable {m n : Drawing Unit} {c c' : Canvas} {e : CanvasError} {x y : Nat}

theorem bind_of_failed (failed : m c = .error e c') : (do m; n) c = .error e c' := by
  change EStateM.bind m (fun _ => n) c = _
  simp only [EStateM.bind, failed]

theorem bind_of_drawn (drawn : m c = .ok () c') : (do m; n) c = n c' := by
  change EStateM.bind m (fun _ => n) c = _
  simp only [EStateM.bind, drawn]

theorem check_of_inside (inside : x < c.width ∧ y < c.height) : check x y c = .ok () c := by
  have inside : c.contains x y = true := by simpa [Canvas.contains] using inside
  change (if c.contains x y = true then _ else _ : Drawing Unit) c = _
  rw [if_pos inside]
  rfl

theorem check_of_outside (outside : ¬ (x < c.width ∧ y < c.height)) :
    check x y c = .error (.outOfBounds x y c.width c.height) c := by
  have outside : ¬ c.contains x y = true := by simpa [Canvas.contains] using outside
  change (if c.contains x y = true then _ else _ : Drawing Unit) c = _
  rw [if_neg outside]
  rfl

/-- What is checked first fails before anything else is done. -/
theorem fails_of_check (outside : ¬ (x < c.width ∧ y < c.height)) :
    (do check x y; m) c = .error (.outOfBounds x y c.width c.height) c :=
  bind_of_failed (check_of_outside outside)

end Drawing

namespace Stroke

variable {c : Canvas}

/-- Failing at a point of the stroke outside the canvas, with nothing drawn. -/
def FailsUnchanged (s : Stroke) (c : Canvas) : Prop :=
  ∃ x y, s.Covers x y ∧ ¬ (x < c.width ∧ y < c.height) ∧
    s.draw c = .error (.outOfBounds x y c.width c.height) c

theorem failsUnchanged_text {x y : Nat} {s : String} (visible : s ≠ "")
    (outside : ¬ (x + s.length - 1 < c.width ∧ y < c.height)) :
    (Stroke.text x y s).FailsUnchanged c := by
  have positive := Nat.pos_of_ne_zero (mt String.length_eq_zero_iff.1 visible)
  refine ⟨x + s.length - 1, y, ⟨by omega, by omega, rfl⟩, outside, ?_⟩
  simp only [draw, Drawing.text, visible, if_false]
  exact Drawing.fails_of_check outside

/-- A line is checked at both ends, and one of them is outside. -/
theorem failsUnchanged_hline {x0 x1 y : Nat} {ch : Char}
    (outside : ¬ (max x0 x1 < c.width ∧ y < c.height)) :
    (Stroke.hline x0 x1 y ch).FailsUnchanged c := by
  by_cases left : min x0 x1 < c.width ∧ y < c.height
  · refine ⟨max x0 x1, y, ?_, outside, ?_⟩
    · simp only [Covers, Spanned]
      omega
    · exact (Drawing.bind_of_drawn (Drawing.check_of_inside left)).trans
        (Drawing.fails_of_check outside)
  · refine ⟨min x0 x1, y, ?_, left, Drawing.fails_of_check left⟩
    simp only [Covers, Spanned]
    omega

theorem failsUnchanged_vline {x y0 y1 : Nat} {ch : Char}
    (outside : ¬ (x < c.width ∧ max y0 y1 < c.height)) :
    (Stroke.vline x y0 y1 ch).FailsUnchanged c := by
  by_cases top : x < c.width ∧ min y0 y1 < c.height
  · refine ⟨x, max y0 y1, ?_, outside, ?_⟩
    · simp only [Covers, Spanned]
      omega
    · exact (Drawing.bind_of_drawn (Drawing.check_of_inside top)).trans
        (Drawing.fails_of_check outside)
  · refine ⟨x, min y0 y1, ?_, top, Drawing.fails_of_check top⟩
    simp only [Covers, Spanned]
    omega

/-- A frame is checked at one corner only; the others are no further to the right or down. -/
theorem failsUnchanged_frame {x0 y0 x1 y1 : Nat}
    (outside : ¬ (max x0 x1 < c.width ∧ max y0 y1 < c.height)) :
    (Stroke.frame x0 y0 x1 y1).FailsUnchanged c := by
  refine ⟨max x0 x1, max y0 y1, ?_, outside, Drawing.fails_of_check outside⟩
  simp only [Covers, Spanned]
  omega

theorem failsUnchanged (s : Stroke) (long : ¬ s.Fits c.width c.height) : s.FailsUnchanged c := by
  cases s with
  | glyph x y ch => exact ⟨x, y, ⟨rfl, rfl⟩, long, Drawing.fails_of_check long⟩
  | text x y s =>
      obtain ⟨visible, outside⟩ := (overruns_iff (.text x y s)).2 long
      exact failsUnchanged_text visible outside
  | hline x0 x1 y ch => exact failsUnchanged_hline long
  | vline x y0 y1 ch => exact failsUnchanged_vline long
  | frame x0 y0 x1 y1 => exact failsUnchanged_frame long

/-- Either the stroke fits and adds its ink, or it fails and changes nothing. -/
theorem draw_cases (s : Stroke) (c : Canvas) :
    (s.Fits c.width c.height ∧ ∃ c', s.draw c = .ok () c' ∧ c'.width = c.width ∧
      c'.height = c.height ∧ ∀ x y, c'.cell x y = (s.ink x y).or (c.cell x y)) ∨
    ¬ s.Fits c.width c.height ∧ s.FailsUnchanged c := by
  by_cases fits : s.Fits c.width c.height
  · exact .inl ⟨fits, s.paints_draw fits c rfl rfl⟩
  · exact .inr ⟨fits, s.failsUnchanged fits⟩

end Stroke

namespace Canvas

variable {w h : Nat} {c : Canvas}

/-- The canvas after a stroke was tried on it. -/
def attempt (c : Canvas) (s : Stroke) : Canvas :=
  match s.draw c with
  | .ok _ drawn => drawn
  | .error _ left => left

/-- The canvas after strokes were tried on it one after the other, whether or not they failed. -/
def attempts (c : Canvas) (ss : List Stroke) : Canvas :=
  ss.foldl attempt c

theorem attempt_of_drawn {s : Stroke} {c' : Canvas} (drawn : s.draw c = .ok () c') :
    c.attempt s = c' := by
  rw [attempt, drawn]

theorem attempt_of_failed {s : Stroke} (failed : s.FailsUnchanged c) : c.attempt s = c := by
  obtain ⟨x, y, _, _, failed⟩ := failed
  rw [attempt, failed]

theorem size_attempt (c : Canvas) (s : Stroke) :
    (c.attempt s).width = c.width ∧ (c.attempt s).height = c.height := by
  cases s.draw_cases c with
  | inl drawn =>
      obtain ⟨_, c', drawn, width, height, _⟩ := drawn
      rw [attempt_of_drawn drawn]
      exact ⟨width, height⟩
  | inr failed =>
      rw [attempt_of_failed failed.2]
      exact ⟨rfl, rfl⟩

theorem size_attempts (c : Canvas) (ss : List Stroke) :
    (c.attempts ss).width = c.width ∧ (c.attempts ss).height = c.height := by
  induction ss generalizing c with
  | nil => exact ⟨rfl, rfl⟩
  | cons s ss ih =>
      obtain ⟨width, height⟩ := size_attempt c s
      rw [attempts, List.foldl_cons, ← width, ← height]
      exact ih (c.attempt s)

/-- After any strokes, failed ones among them, a further stroke fails just where it overruns the
canvas. It then leaves the canvas as it was, and its error names one of its own points outside and
the size of the canvas. -/
theorem failed_stroke_changes_nothing {start : Canvas} (created : blank w h = .ok start)
    (before : List Stroke) (s : Stroke) :
    ((∃ e c', s.draw (start.attempts before) = .error e c') ↔ s.Overruns w h) ∧
      ∀ e c', s.draw (start.attempts before) = .error e c' → c' = start.attempts before ∧
        ∃ x y, s.Covers x y ∧ ¬ (x < w ∧ y < h) ∧ e = .outOfBounds x y w h := by
  obtain ⟨rfl, rfl⟩ := size_blank created
  obtain ⟨width, height⟩ := size_attempts start before
  have outcome := s.draw_cases (start.attempts before)
  rw [width, height] at outcome
  cases outcome with
  | inl drawn =>
      obtain ⟨fits, c', drawn, _⟩ := drawn
      simp [Stroke.overruns_iff, fits, drawn]
  | inr failed =>
      obtain ⟨long, x, y, covers, outside, failed⟩ := failed
      rw [width, height] at outside failed
      simp only [Stroke.overruns_iff, long, not_false_eq_true, iff_true]
      refine ⟨⟨_, _, failed⟩, fun e c' again => ?_⟩
      rw [failed] at again
      cases again
      exact ⟨rfl, x, y, covers, outside, rfl⟩

/-- A text whose last space is outside fails too. -/
theorem failed_stroke_changes_nothing_space : ∃ start, blank 4 3 = .ok start ∧
    ∃ e c', (Stroke.text 2 1 "ab ").draw
        (start.attempts [.vline 3 2 0 '|', .frame 4 2 0 0]) = .error e c' ∧
      c' = start.attempts [.vline 3 2 0 '|', .frame 4 2 0 0] ∧ e = .outOfBounds 4 1 4 3 := by
  have created : blank 4 3 = .ok _ := rfl
  have claim := failed_stroke_changes_nothing created [.vline 3 2 0 '|', .frame 4 2 0 0]
    (.text 2 1 "ab ")
  obtain ⟨e, c', failed⟩ := claim.1.2 ⟨by decide, by decide⟩
  obtain ⟨same, x, y, covers, outside, error⟩ := claim.2 e c' failed
  have length : "ab ".length = 3 := by decide
  simp only [Stroke.Covers, length] at covers
  obtain rfl : x = 4 := by omega
  obtain rfl : y = 1 := by omega
  exact ⟨_, created, e, c', failed, same, error⟩

end Canvas

end SequenceChart
