import SequenceChart.Proofs.Columns
import SequenceChart.Proofs.Ink

/-!
The rectangles that statements are drawn in. A message to someone else stays strictly between the
lifelines of its ends and below the first row of its band; a note and a message to oneself stay on
one side of their lifeline. In particular nothing is drawn on the lifeline of an end.
-/

namespace SequenceChart

namespace Stroke

/-- The outermost points of the stroke lie in a rectangle. The bounds belong to it. -/
def Inside (left right top bottom : Nat) : Stroke → Prop
  | .glyph x y _ => left ≤ x ∧ x ≤ right ∧ top ≤ y ∧ y ≤ bottom
  | .text x y s => s ≠ "" → left ≤ x ∧ x + s.length ≤ right + 1 ∧ top ≤ y ∧ y ≤ bottom
  | .hline x0 x1 y _ => left ≤ min x0 x1 ∧ max x0 x1 ≤ right ∧ top ≤ y ∧ y ≤ bottom
  | .vline x y0 y1 _ => left ≤ x ∧ x ≤ right ∧ top ≤ min y0 y1 ∧ max y0 y1 ≤ bottom
  | .frame x0 y0 x1 y1 =>
    left ≤ min x0 x1 ∧ max x0 x1 ≤ right ∧ top ≤ min y0 y1 ∧ max y0 y1 ≤ bottom

variable {l r t b w h : Nat} {s : Stroke}

theorem Inside.fits (inside : s.Inside l r t b) (hw : r < w) (hh : b < h) : s.Fits w h := by
  cases s with
  | text x y s =>
      intro visible
      obtain ⟨_, right, _, low⟩ := inside visible
      exact ⟨by omega, by omega⟩
  | glyph _ _ _ | hline _ _ _ _ | vline _ _ _ _ | frame _ _ _ _ =>
      obtain ⟨_, right, _, low⟩ := inside
      exact ⟨by omega, by omega⟩

theorem Inside.bounds (inside : s.Inside l r t b) {x y : Nat} {ch : Char}
    (ink : s.ink x y = some ch) : l ≤ x ∧ x ≤ r ∧ t ≤ y ∧ y ≤ b := by
  cases s with
  | text x' y' s =>
      obtain ⟨row, left, right, mem, _⟩ := Ink.bounds_of_chars ink
      have visible : s ≠ "" := by
        rintro rfl
        exact List.not_mem_nil mem
      have := inside visible
      rw [String.length_toList] at right
      omega
  | glyph _ _ _ | hline _ _ _ _ | vline _ _ _ _ =>
      have := (Ink.bounds_of_block ink).1
      simp only [Inside] at inside
      omega
  | frame _ _ _ _ =>
      have := Ink.bounds_of_frame ink
      simp only [Inside] at inside
      omega

end Stroke

theorem Ink.bounds_of_inside {l r t b x y : Nat} {ch : Char} {ss : List Stroke}
    (inside : ∀ s ∈ ss, s.Inside l r t b) (ink : ofStrokes ss x y = some ch) :
    l ≤ x ∧ x ≤ r ∧ t ≤ y ∧ y ≤ b := by
  obtain ⟨s, mem, ink⟩ := exists_of_ofStrokes ink
  exact (inside s mem).bounds ink

theorem length_le_longestLine {text line : String} (mem : line ∈ textLines text) :
    line.length ≤ longestLine text :=
  le_foldr_max (List.mem_map_of_mem mem) 0

namespace Statement

variable {x y l r t b : Nat} {band : Band} {text : String}

theorem inside_textStrokes {start : String → Nat} {top : Nat}
    (columns : ∀ line ∈ textLines text, l ≤ start line ∧ start line + line.length ≤ r + 1)
    (high : t ≤ top) (low : top + (textLines text).length ≤ b + 1) :
    ∀ s ∈ textStrokes start top text, s.Inside l r t b := by
  intro s mem
  obtain ⟨⟨line, k⟩, place, rfl⟩ := List.mem_map.1 mem
  have here := List.mem_zipIdx_iff_getElem?.1 place
  obtain ⟨inside, _⟩ := List.getElem?_eq_some_iff.1 here
  obtain ⟨left, right⟩ := columns line (List.mem_of_getElem? here)
  dsimp only at inside
  exact fun _ => ⟨left, right, by omega, by omega⟩

theorem inside_rightward (room : x + messageWidth text + 1 ≤ y)
    (rows : band.bottom = band.top + messageRows text) :
    ∀ s ∈ rightwardStrokes x y band text,
      s.Inside (x + 1) (y - 1) (band.top + 1) (band.bottom - 1) := by
  simp only [messageWidth, messageMargin, messageRows] at room rows
  simp only [rightwardStrokes, List.forall_mem_append, List.forall_mem_cons, Stroke.Inside]
  refine ⟨inside_textStrokes ?_ (Nat.le_refl _) (by omega), by omega, by omega, by simp⟩
  intro line mem
  have := length_le_longestLine mem
  omega

theorem inside_leftward (room : y + messageWidth text + 1 ≤ x)
    (rows : band.bottom = band.top + messageRows text) :
    ∀ s ∈ leftwardStrokes x y band text,
      s.Inside (y + 1) (x - 1) (band.top + 1) (band.bottom - 1) := by
  simp only [messageWidth, messageMargin, messageRows] at room rows
  simp only [leftwardStrokes, List.forall_mem_append, List.forall_mem_cons, Stroke.Inside]
  refine ⟨inside_textStrokes ?_ (Nat.le_refl _) (by omega), by omega, by omega, by simp⟩
  intro line mem
  have := length_le_longestLine mem
  omega

theorem inside_self (rows : band.bottom = band.top + selfMessageRows text) :
    ∀ s ∈ selfStrokes x band text,
      s.Inside (x + 1) (x + messageWidth text) (band.top + 1) (band.bottom - 1) := by
  have width : messageWidth text = longestLine text + 2 := rfl
  simp only [selfMessageRows] at rows
  simp only [selfStrokes, List.forall_mem_append, List.forall_mem_cons, Stroke.Inside]
  refine ⟨inside_textStrokes ?_ (Nat.le_refl _) (by omega), by omega, by omega, by omega, by omega,
    by simp⟩
  intro line mem
  have := length_le_longestLine mem
  omega

theorem inside_leftNote (room : noteWidth text + 1 ≤ x)
    (rows : band.bottom = band.top + noteRows text) :
    ∀ s ∈ noteStrokes .left x band text,
      s.Inside (x - 1 - noteWidth text) (x - 1) band.top (band.bottom - 1) := by
  have width : noteWidth text = longestLine text + 4 := rfl
  simp only [noteRows] at rows
  simp only [noteStrokes, List.forall_mem_append, List.forall_mem_cons, Stroke.Inside]
  refine ⟨⟨⟨by omega, by omega, by simp⟩, inside_textStrokes ?_ (Nat.le_succ _) (by omega)⟩,
    by omega, by simp⟩
  intro line mem
  have := length_le_longestLine mem
  omega

theorem inside_rightNote (rows : band.bottom = band.top + noteRows text) :
    ∀ s ∈ noteStrokes .right x band text,
      s.Inside (x + 1) (x + 1 + noteWidth text) band.top (band.bottom - 1) := by
  have width : noteWidth text = longestLine text + 4 := rfl
  simp only [noteRows] at rows
  simp only [noteStrokes, List.forall_mem_append, List.forall_mem_cons, Stroke.Inside]
  refine ⟨⟨⟨by omega, by omega, by simp⟩, inside_textStrokes ?_ (Nat.le_succ _) (by omega)⟩,
    by omega, by simp⟩
  intro line mem
  have := length_le_longestLine mem
  omega

end Statement

end SequenceChart
