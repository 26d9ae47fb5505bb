import SequenceChart.Canvas.Basic

/-!
A canvas seen through its cells. Writing at a point changes the cell of that point and no other,
and it never changes the size of the canvas.
-/

namespace SequenceChart.Canvas

variable {c : Canvas} {x y x' y' : Nat} {ch : Char}

@[simp] theorem width_put : (c.put x y ch).width = c.width := by
  unfold put
  split <;> rfl

@[simp] theorem height_put : (c.put x y ch).height = c.height := by
  unfold put
  split <;> rfl

@[simp] theorem contains_put : (c.put x y ch).contains x' y' = c.contains x' y' := by
  simp only [contains, width_put, height_put]

/-- Points of the canvas have different places in the array of cells. -/
theorem index_inj {w : Nat} (hx : x < w) (hx' : x' < w) (h : y * w + x = y' * w + x') :
    x = x' ∧ y = y' := by
  have hmod := congrArg (· % w) h
  have hdiv := congrArg (· / w) h
  have hw : 0 < w := by omega
  simp only [Nat.mul_add_mod', Nat.mod_eq_of_lt hx, Nat.mod_eq_of_lt hx'] at hmod
  rw [Nat.mul_comm y, Nat.mul_comm y', Nat.mul_add_div hw, Nat.mul_add_div hw,
    Nat.div_eq_of_lt hx, Nat.div_eq_of_lt hx'] at hdiv
  exact ⟨hmod, hdiv⟩

/-- Every point of the canvas has a cell. -/
theorem index_lt (h : c.contains x y = true) : y * c.width + x < c.cells.size := by
  simp only [contains, Bool.and_eq_true, decide_eq_true_eq] at h
  rw [c.size_cells]
  calc
    y * c.width + x < y * c.width + c.width := by omega
    _ = c.width * (y + 1) := by rw [Nat.mul_comm y, Nat.mul_succ]
    _ ≤ c.width * c.height := Nat.mul_le_mul_left _ h.2

theorem cell_put_self (h : c.contains x y = true) : (c.put x y ch).cell x y = some ch := by
  simp only [cell, contains_put, h, if_true]
  simp only [put, h, if_true]
  rw [Array.getElem?_setIfInBounds_self_of_lt (index_lt h)]
  rfl

theorem cell_put_of_ne (h : x' ≠ x ∨ y' ≠ y) : (c.put x y ch).cell x' y' = c.cell x' y' := by
  simp only [cell, contains_put]
  split
  · rename_i inside'
    simp only [put]
    split
    · rename_i inside
      simp only [contains, Bool.and_eq_true, decide_eq_true_eq] at inside inside'
      rw [Array.getElem?_setIfInBounds_ne]
      intro same
      have := index_inj inside.1 inside'.1 same
      omega
    · rfl
  · rfl

/-- A canvas that is not too large is created, with blank cells only. -/
theorem blank_eq_ok_iff {w h : Nat} : blank w h = .ok c ↔
    w * h ≤ maxCells ∧ c = ⟨w, h, Array.replicate (w * h) none, Array.size_replicate⟩ := by
  unfold blank
  by_cases small : w * h ≤ maxCells
  · have countable : ¬ wordLimit ≤ w * h := by
      simp only [maxCells, wordLimit] at small ⊢
      omega
    rw [if_neg countable, if_neg (Nat.not_lt_of_le small), Except.ok.injEq]
    simp only [small, true_and, eq_comm]
  · simp only [small, false_and, iff_false]
    split
    · exact nofun
    · rw [if_pos (Nat.lt_of_not_le small)]
      exact nofun

theorem le_maxCells {w h : Nat} (created : blank w h = .ok c) : w * h ≤ maxCells :=
  (blank_eq_ok_iff.1 created).1

theorem size_blank {w h : Nat} (created : blank w h = .ok c) : c.width = w ∧ c.height = h := by
  obtain ⟨_, rfl⟩ := blank_eq_ok_iff.1 created
  exact ⟨rfl, rfl⟩

theorem cell_blank {w h : Nat} (created : blank w h = .ok c) : c.cell x y = none := by
  obtain ⟨_, rfl⟩ := blank_eq_ok_iff.1 created
  simp only [cell]
  split
  · rw [Array.getElem?_replicate]
    split <;> rfl
  · rfl

/-- A canvas is known by its size and its cells. -/
theorem eq_of_cells {c d : Canvas} (width : c.width = d.width) (height : c.height = d.height)
    (cells : ∀ x y, c.cell x y = d.cell x y) : c = d := by
  obtain ⟨w, h, cs, size⟩ := c
  obtain ⟨_, _, ds, size'⟩ := d
  cases width
  cases height
  have same : cs = ds := by
    apply Array.ext (size.trans size'.symm)
    intro i here here'
    have positive : 0 < w := Nat.pos_of_mul_pos_right (Nat.zero_lt_of_lt (size ▸ here))
    have column : i % w < w := Nat.mod_lt i positive
    have row : i / w < h := Nat.div_lt_of_lt_mul (size ▸ here)
    have point := cells (i % w) (i / w)
    simpa [cell, contains, column, row, Nat.div_add_mod', here, here'] using point
  cases same
  rfl

end SequenceChart.Canvas
