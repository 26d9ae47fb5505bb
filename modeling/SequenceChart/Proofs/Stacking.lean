import Mathlib.Data.List.Forall2
import Mathlib.Logic.ExistsUnique
import SequenceChart.Proofs.Bands

/-!
The rows of a chart. Between the boxes and the last row the bands of the statements follow each
other without gaps, each as high as its statement needs, so every row there belongs to one statement
and to no other.
-/

namespace SequenceChart

/-- How many rows a statement takes. Texts take a row for each of their lines. -/
inductive Statement.Takes : Statement → Nat → Prop
  | declare (names : List String) : Takes (.declare names) 0
  | space (gap : Nat) : Takes (.space gap) gap
  | note (side : Side) (participant text : String) :
      Takes (.note side participant text) (2 + (textLines text).length)
  | message {sender receiver : String} (apart : sender ≠ receiver) (text : String) :
      Takes (.message sender receiver text) (2 + (textLines text).length)
  | selfMessage (name text : String) :
      Takes (.message name name text) (4 + (textLines text).length)

namespace Statement

theorem takes_rows (s : Statement) : s.Takes s.rows := by
  cases s with
  | declare names => exact .declare names
  | message sender receiver text =>
      rw [rows]
      split
      case isTrue same =>
        rw [same, selfMessageRows, Nat.add_comm]
        exact .selfMessage receiver text
      case isFalse apart =>
        rw [messageRows, Nat.add_comm]
        exact .message apart text
  | note side participant text =>
      rw [rows, noteRows, Nat.add_comm]
      exact .note side participant text
  | space gap => exact .space gap

theorem Takes.eq_rows {s : Statement} {n : Nat} (takes : s.Takes n) : n = s.rows := by
  cases takes with
  | declare | space => rfl
  | note side participant text => exact Nat.add_comm _ _
  | message apart text => rw [rows, if_neg apart, messageRows, Nat.add_comm]
  | selfMessage name text => rw [rows, if_pos rfl, selfMessageRows, Nat.add_comm]

end Statement

namespace Layout

/-- Bands that follow each other without gaps, from row `top` to just before row `bottom`. -/
inductive Stacked : (top : Nat) → List Band → (bottom : Nat) → Prop
  | nil (row : Nat) : Stacked row [] row
  | cons {top bottom : Nat} {band : Band} {bands : List Band} (starts : band.top = top)
      (rest : Stacked band.bottom bands bottom) : Stacked top (band :: bands) bottom

theorem stacked_bandsFrom (names : List String) (top : Nat) (d : Diagram) :
    Stacked top (bandsFrom names top d) (top + d.rows) := by
  induction d generalizing top with
  | nil => exact .nil top
  | cons s d ih =>
      rw [Diagram.rows, ← Nat.add_assoc]
      exact .cons rfl (ih (top + s.rows))

namespace Stacked

variable {top bottom : Nat} {bands : List Band}

theorem top_eq (stacked : Stacked top bands bottom) {band : Band} (first : bands[0]? = some band) :
    band.top = top := by
  cases stacked with
  | nil => contradiction
  | cons starts rest =>
      cases first
      exact starts

theorem top_eq_bottom (stacked : Stacked top bands bottom) {k : Nat} {band next : Band}
    (here : bands[k]? = some band) (behind : bands[k + 1]? = some next) :
    next.top = band.bottom := by
  induction stacked generalizing k with
  | nil => contradiction
  | cons starts rest ih =>
      cases k with
      | zero =>
          cases here
          exact rest.top_eq behind
      | succ k => exact ih here behind

/-- There is a band for every row. -/
theorem exists_band (stacked : Stacked top bands bottom) {y : Nat} (below : top ≤ y)
    (above : y < bottom) :
    ∃ (k : Nat) (band : Band), bands[k]? = some band ∧ band.top ≤ y ∧ y < band.bottom := by
  induction stacked with
  | nil => omega
  | @cons top bottom band bands starts rest ih =>
      rcases Nat.lt_or_ge y band.bottom with inside | behind
      · exact ⟨0, band, rfl, starts ▸ below, inside⟩
      · obtain ⟨k, later, here, inside⟩ := ih behind above
        exact ⟨k + 1, later, here, inside⟩

end Stacked

/-- The rows of a layout, shared out among the statements of a diagram. -/
structure SharesRows (l : Layout) (d : Diagram) : Prop where
  keys : l.bands.length = d.length
  first : ∀ band : Band, l.bands[0]? = some band → band.top = 3
  next : ∀ (k : Nat) (band next : Band), l.bands[k]? = some band →
    l.bands[k + 1]? = some next → next.top = band.bottom
  extent : ∀ (k : Nat) (s : Statement) (band : Band), d[k]? = some s → l.bands[k]? = some band →
    ∃ n, s.Takes n ∧ band.bottom = band.top + n
  height : ∃ heights, List.Forall₂ Statement.Takes d heights ∧ l.height = 3 + heights.sum + 1
  owner : ∀ y, 3 ≤ y → y < l.height - 1 → ∃! k : Nat, ∃ (s : Statement) (band : Band),
    d[k]? = some s ∧ l.bands[k]? = some band ∧ ¬ s.Takes 0 ∧ band.top ≤ y ∧ y < band.bottom

/-- The statements of a diagram share the rows below the boxes among them, in order, without gaps
and without overlaps. -/
theorem rows_shared (d : Diagram) : (ofDiagram d).SharesRows d := by
  have stacked := stacked_bandsFrom d.participants headerRows d
  constructor
  case keys => exact length_bandsFrom d.participants headerRows d
  case first => exact fun band here => stacked.top_eq here
  case next => exact fun k band next here behind => stacked.top_eq_bottom here behind
  case extent =>
    intro k s band here placed
    rw [getElem?_bands_eq_some here, Option.some.injEq] at placed
    exact ⟨s.rows, s.takes_rows, placed ▸ bottom_eq d k s⟩
  case height =>
    refine ⟨d.map Statement.rows, ?_, ?_⟩
    · exact List.forall₂_map_right_iff.2 (List.forall₂_same.2 fun s _ => s.takes_rows)
    · rw [← Diagram.rows_eq_sum]
      rfl
  case owner =>
    -- Stacking gives a band for the row, and bands that lie in order share no row.
    intro y below above
    obtain ⟨k, band, placed, inside⟩ := stacked.exists_band below above
    obtain ⟨s, here, same⟩ := Option.map_eq_some_iff.1 ((getElem?_bands d k).symm.trans placed)
    rw [← same] at inside
    refine ⟨k, ⟨s, bandAt d k s, here, getElem?_bands_eq_some here, fun none => ?_, inside⟩, ?_⟩
    · have := bottom_eq d k s
      have := none.eq_rows
      omega
    · rintro j ⟨t, other, there, placed', -, inside'⟩
      cases (getElem?_bands_eq_some there).symm.trans placed'
      exact band_unique there here inside' inside

example :
    let d : Diagram := [.declare ["A"], .message "A" "B" "hi", .message "A" "A" "ping",
      .note .right "B" "a\nb", .space 2, .message "B" "A" ""]
    (ofDiagram d).bands.map (fun band => (band.top, band.bottom)) =
      [(3, 3), (3, 6), (6, 11), (11, 15), (15, 17), (17, 19)] := by
  decide

end Layout

end SequenceChart
