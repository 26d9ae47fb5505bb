import Mathlib.Algebra.GroupWithZero.Nat
import SequenceChart.Layout.OfDiagram

/-!
The bands of a diagram. Each statement starts where the one before it ends, so bands lie one below
the other between the boxes and the last row, and no row belongs to two of them.
-/

namespace SequenceChart

namespace Diagram

theorem rows_eq_sum (d : Diagram) : d.rows = (d.map Statement.rows).sum := by
  induction d with
  | nil => rfl
  | cons s d ih => rw [rows, ih, List.map_cons, List.sum_cons]

theorem rows_append (d e : Diagram) : rows (d ++ e) = rows d + rows e := by
  induction d with
  | nil => exact (Nat.zero_add _).symm
  | cons s d ih => rw [List.cons_append, rows, rows, ih, Nat.add_assoc]

theorem rows_take_le (d : Diagram) {i j : Nat} (le : i ≤ j) :
    rows (d.take i) ≤ rows (d.take j) := by
  rw [← Nat.min_eq_left le, ← List.take_take]
  calc
    rows ((d.take j).take i) ≤ rows ((d.take j).take i) + rows ((d.take j).drop i) :=
      Nat.le_add_right _ _
    _ = rows (d.take j) := by rw [← rows_append, List.take_append_drop]

theorem rows_take_succ {d : Diagram} {i : Nat} {s : Statement} (here : d[i]? = some s) :
    rows (d.take (i + 1)) = rows (d.take i) + s.rows := by
  rw [List.take_add_one, here, rows_append]
  rfl

theorem rows_take_add_le {d : Diagram} {i : Nat} {s : Statement} (here : d[i]? = some s) :
    rows (d.take i) + s.rows ≤ rows d := by
  rw [← rows_take_succ here]
  calc
    rows (d.take (i + 1)) ≤ rows (d.take (max (i + 1) d.length)) :=
      rows_take_le d (Nat.le_max_left _ _)
    _ = rows d := by rw [List.take_of_length_le (Nat.le_max_right _ _)]

end Diagram

namespace Layout

/-- The band of the statement `s` that stands at position `i`. -/
def bandAt (d : Diagram) (i : Nat) (s : Statement) : Band where
  top := headerRows + Diagram.rows (d.take i)
  bottom := headerRows + Diagram.rows (d.take i) + s.rows
  placement := s.placement d.participants

theorem length_bandsFrom (names : List String) (top : Nat) (d : Diagram) :
    (bandsFrom names top d).length = d.length := by
  induction d generalizing top with
  | nil => rfl
  | cons s d ih => rw [bandsFrom, List.length_cons, List.length_cons, ih]

theorem getElem?_bandsFrom (names : List String) (top : Nat) (d : Diagram) (i : Nat) :
    (bandsFrom names top d)[i]? = (d[i]?).map fun s =>
      ⟨top + Diagram.rows (d.take i), top + Diagram.rows (d.take i) + s.rows,
        s.placement names⟩ := by
  induction d generalizing top i with
  | nil => rfl
  | cons s d ih =>
      cases i with
      | zero => rfl
      | succ i =>
          simp only [bandsFrom, List.getElem?_cons_succ, ih, List.take_succ_cons, Diagram.rows,
            Nat.add_assoc]

theorem getElem?_bands (d : Diagram) (i : Nat) :
    (ofDiagram d).bands[i]? = (d[i]?).map (bandAt d i) :=
  getElem?_bandsFrom d.participants headerRows d i

variable {d : Diagram} {i j : Nat} {s t : Statement}

theorem getElem?_bands_eq_some (here : d[i]? = some s) :
    (ofDiagram d).bands[i]? = some (bandAt d i s) := by
  rw [getElem?_bands, here, Option.map_some]

/-- The statements that are drawn and the bands that they are drawn in. -/
theorem mem_zip_bands {band : Band} :
    (s, band) ∈ d.zip (ofDiagram d).bands ↔ ∃ i, d[i]? = some s ∧ band = bandAt d i s := by
  simp only [List.mem_iff_getElem?, List.getElem?_zip_eq_some, getElem?_bands]
  refine exists_congr fun i => and_congr_right fun here => ?_
  rw [here, Option.map_some, Option.some.injEq, eq_comm]

theorem bottom_eq (d : Diagram) (i : Nat) (s : Statement) :
    (bandAt d i s).bottom = (bandAt d i s).top + s.rows :=
  rfl

theorem bottom_message {sender receiver text : String} (apart : sender ≠ receiver) :
    (bandAt d i (.message sender receiver text)).bottom =
      (bandAt d i (.message sender receiver text)).top + messageRows text := by
  rw [bottom_eq, Statement.rows, if_neg apart]

theorem bottom_selfMessage (d : Diagram) (i : Nat) (name text : String) :
    (bandAt d i (.message name name text)).bottom =
      (bandAt d i (.message name name text)).top + selfMessageRows text := by
  rw [bottom_eq, Statement.rows, if_pos rfl]

theorem bottom_lt_height (here : d[i]? = some s) :
    (bandAt d i s).bottom < (ofDiagram d).height := by
  have := Diagram.rows_take_add_le here
  simp only [bandAt, ofDiagram, trailerRows]
  omega

/-- A band ends before any later one starts. -/
theorem bottom_le_top (before : i < j) (here : d[i]? = some s) (t : Statement) :
    (bandAt d i s).bottom ≤ (bandAt d j t).top := by
  have := Diagram.rows_take_le d (Nat.succ_le_of_lt before)
  rw [Nat.succ_eq_add_one, Diagram.rows_take_succ here] at this
  simp only [bandAt]
  omega

/-- No row belongs to two bands. -/
theorem band_unique {y : Nat} (hi : d[i]? = some s) (hj : d[j]? = some t)
    (in_s : (bandAt d i s).top ≤ y ∧ y < (bandAt d i s).bottom)
    (in_t : (bandAt d j t).top ≤ y ∧ y < (bandAt d j t).bottom) : i = j := by
  rcases Nat.lt_trichotomy i j with before | same | behind
  · have := bottom_le_top before hi t
    omega
  · exact same
  · have := bottom_le_top behind hj s
    omega

end Layout

end SequenceChart
