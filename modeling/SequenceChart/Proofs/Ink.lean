import Mathlib.Logic.Basic
import SequenceChart.Canvas.Lemmas
import SequenceChart.Canvas.Stroke

/-!
What a stroke leaves on a canvas. The ink of a stroke says which character stands at which point
after it was drawn, and a stroke fits a canvas size when its outermost points lie on a canvas of
that size. A stroke that fits is drawn, and it changes the canvas by its ink and in nothing else;
of several strokes the last one with ink at a point decides.
-/

namespace SequenceChart

/-- The characters that a drawing leaves, by column and row. A point without ink keeps what was
there before. -/
abbrev Ink := Nat → Nat → Option Char

namespace Ink

def none : Ink := fun _ _ => .none

def overlay (upper lower : Ink) : Ink := fun x y => (upper x y).or (lower x y)

/-- One character at all points of a rectangle. The bounds belong to it. -/
def block (left right top bottom : Nat) (ch : Char) : Ink := fun x y =>
  if left ≤ x ∧ x ≤ right ∧ top ≤ y ∧ y ≤ bottom then some ch else .none

/-- Characters one after the other in a row. A space leaves no ink. -/
def chars (x y : Nat) (chs : List Char) : Ink := fun x' y' =>
  if y' = y ∧ x ≤ x' then (chs[x' - x]?).filter (· ≠ ' ') else .none

/-- A rectangle with corners and sides. Where it has no inside it is a line. -/
def frame (left right top bottom : Nat) : Ink := fun x y =>
  if left ≤ x ∧ x ≤ right ∧ top ≤ y ∧ y ≤ bottom then
    if left = right then some Glyph.vertical
    else if top = bottom then some Glyph.horizontal
    else if (x = left ∨ x = right) ∧ (y = top ∨ y = bottom) then some Glyph.corner
    else if y = top ∨ y = bottom then some Glyph.horizontal
    else if x = left ∨ x = right then some Glyph.vertical
    else .none
  else .none

/-- Two rectangles of one character that together are a rectangle. -/
theorem block_over_block {l r t b l' r' t' b' l'' r'' t'' b'' x y : Nat} {ch : Char}
    (union : ∀ x y, (l ≤ x ∧ x ≤ r ∧ t ≤ y ∧ y ≤ b) ∨ (l' ≤ x ∧ x ≤ r' ∧ t' ≤ y ∧ y ≤ b') ↔
      l'' ≤ x ∧ x ≤ r'' ∧ t'' ≤ y ∧ y ≤ b'') :
    overlay (block l r t b ch) (block l' r' t' b' ch) x y = block l'' r'' t'' b'' ch x y := by
  have here := union x y
  by_cases upper : l ≤ x ∧ x ≤ r ∧ t ≤ y ∧ y ≤ b
  · simp only [overlay, block, if_pos upper, if_pos (here.1 (.inl upper)), Option.some_or]
  · simp only [overlay, block, if_neg upper, Option.none_or]
    exact if_congr ⟨fun lower => here.1 (.inr lower), fun both => (here.2 both).resolve_left upper⟩
      rfl rfl

theorem chars_cons_of_lt {x y x' y' : Nat} {ch : Char} {chs : List Char} (right : x < x') :
    chars x y (ch :: chs) x' y' = chars (x + 1) y chs x' y' := by
  have next : x' - x = x' - (x + 1) + 1 := by omega
  simp only [chars, next, List.getElem?_cons_succ]
  exact if_congr (by omega) rfl rfl

theorem chars_of_lt {x y x' y' : Nat} {chs : List Char} (left : x' < x) :
    chars x y chs x' y' = .none := by
  rw [chars, if_neg (by omega)]

theorem chars_cons_self {x y y' : Nat} {ch : Char} {chs : List Char} :
    chars x y (ch :: chs) x y' = if y' = y ∧ ch ≠ ' ' then some ch else .none := by
  by_cases row : y' = y <;> by_cases blank : ch = ' ' <;>
    simp [chars, row, blank]

theorem chars_cons_blank {x y x' y' : Nat} {chs : List Char} :
    chars (x + 1) y chs x' y' = chars x y (' ' :: chs) x' y' := by
  rcases Nat.lt_trichotomy x' x with left | rfl | right
  · rw [chars_of_lt left, chars_of_lt (by omega)]
  · rw [chars_cons_self, chars_of_lt (by omega), if_neg (by simp)]
  · rw [chars_cons_of_lt right]

theorem chars_cons {x y x' y' : Nat} {ch : Char} {chs : List Char} (ink : ch ≠ ' ') :
    overlay (chars (x + 1) y chs) (block x x y y ch) x' y' = chars x y (ch :: chs) x' y' := by
  rcases Nat.lt_trichotomy x' x with left | rfl | right
  · rw [overlay, chars_of_lt left, chars_of_lt (by omega), block, if_neg (by omega), Option.none_or]
  · rw [overlay, chars_cons_self, chars_of_lt (by omega), Option.none_or]
    exact if_congr (by simp only [ink, ne_eq, not_false_eq_true, and_true]; omega) rfl rfl
  · rw [overlay, chars_cons_of_lt right, block, if_neg (by omega), Option.or_none]

theorem or_same {p q : Prop} [Decidable p] [Decidable q] (ch : Char) :
    (if p then some ch else .none).or (if q then some ch else .none) =
      if p ∨ q then some ch else .none := by
  by_cases hp : p <;> simp [hp]

/-- A frame drawn as two rows, two columns and four corners, each on top of those before. -/
theorem frame_of_lines {l r t b x y : Nat} (wide : l < r) (high : t < b) :
    overlay (overlay (overlay (overlay (overlay (overlay (overlay (block r r b b Glyph.corner)
      (block l l b b Glyph.corner)) (block r r t t Glyph.corner)) (block l l t t Glyph.corner))
      (block r r t b Glyph.vertical)) (block l l t b Glyph.vertical))
      (block l r b b Glyph.horizontal)) (block l r t t Glyph.horizontal) x y =
    frame l r t b x y := by
  calc
    _ = (if (x = l ∨ x = r) ∧ (y = t ∨ y = b) then some Glyph.corner else .none).or
          ((if (x = l ∨ x = r) ∧ t ≤ y ∧ y ≤ b then some Glyph.vertical else .none).or
            (if l ≤ x ∧ x ≤ r ∧ (y = t ∨ y = b) then some Glyph.horizontal else .none)) := by
      simp only [overlay, block, Option.or_assoc, or_same]
      exact congrArg₂ Option.or (if_congr (by omega) rfl rfl)
        (congrArg₂ Option.or (if_congr (by omega) rfl rfl) (if_congr (by omega) rfl rfl))
    _ = frame l r t b x y := by
      rw [frame]
      by_cases inside : l ≤ x ∧ x ≤ r ∧ t ≤ y ∧ y ≤ b
      · rw [if_pos inside, if_neg (Nat.ne_of_lt wide), if_neg (Nat.ne_of_lt high)]
        by_cases column : x = l ∨ x = r <;> by_cases row : y = t ∨ y = b <;>
          simp [column, row, inside]
      · rw [if_neg inside, if_neg (by omega), if_neg (by omega), if_neg (by omega)]
        rfl

theorem bounds_of_block {l r t b x y : Nat} {ch other : Char}
    (ink : block l r t b ch x y = some other) :
    (l ≤ x ∧ x ≤ r ∧ t ≤ y ∧ y ≤ b) ∧ other = ch := by
  unfold block at ink
  split at ink
  · next inside => exact ⟨inside, (Option.some.inj ink).symm⟩
  · contradiction

theorem block_of_bounds {l r t b x y : Nat} (ch : Char)
    (inside : l ≤ x ∧ x ≤ r ∧ t ≤ y ∧ y ≤ b) : block l r t b ch x y = some ch :=
  if_pos inside

theorem bounds_of_chars {x y x' y' : Nat} {chs : List Char} {ch : Char}
    (ink : chars x y chs x' y' = some ch) :
    y' = y ∧ x ≤ x' ∧ x' < x + chs.length ∧ ch ∈ chs ∧ ch ≠ ' ' := by
  unfold chars at ink
  split at ink
  · next inside =>
      obtain ⟨here, visible⟩ := Option.filter_eq_some_iff.1 ink
      obtain ⟨bound, _⟩ := List.getElem?_eq_some_iff.1 here
      exact ⟨inside.1, inside.2, by omega, List.mem_of_getElem? here, by simpa using visible⟩
  · contradiction

theorem bounds_of_frame {l r t b x y : Nat} {ch : Char} (ink : frame l r t b x y = some ch) :
    l ≤ x ∧ x ≤ r ∧ t ≤ y ∧ y ≤ b := by
  unfold frame at ink
  split at ink
  · assumption
  · contradiction

end Ink

namespace Stroke

def ink : Stroke → Ink
  | .glyph x y ch => .block x x y y ch
  | .text x y s => .chars x y s.toList
  | .hline x0 x1 y ch => .block (min x0 x1) (max x0 x1) y y ch
  | .vline x y0 y1 ch => .block x x (min y0 y1) (max y0 y1) ch
  | .frame x0 y0 x1 y1 => .frame (min x0 x1) (max x0 x1) (min y0 y1) (max y0 y1)

/-- The outermost points of the stroke lie on a canvas of this size. The empty text has none. -/
def Fits (w h : Nat) : Stroke → Prop
  | .glyph x y _ => x < w ∧ y < h
  | .text x y s => s ≠ "" → x + s.length ≤ w ∧ y < h
  | .hline x0 x1 y _ => max x0 x1 < w ∧ y < h
  | .vline x y0 y1 _ => x < w ∧ max y0 y1 < h
  | .frame x0 y0 x1 y1 => max x0 x1 < w ∧ max y0 y1 < h

end Stroke

/-- The ink of strokes drawn one after the other. -/
def Ink.ofStrokes : List Stroke → Ink
  | [] => .none
  | s :: strokes => .overlay (ofStrokes strokes) s.ink

theorem Ink.ofStrokes_append (ss ts : List Stroke) :
    ofStrokes (ss ++ ts) = overlay (ofStrokes ts) (ofStrokes ss) := by
  induction ss with
  | nil => funext x y; simp [ofStrokes, overlay, none]
  | cons s ss ih =>
      funext x y
      simp only [List.cons_append, ofStrokes, ih, overlay, Option.or_assoc]

/-- Ink at a point comes from one of the strokes. -/
theorem Ink.exists_of_ofStrokes {ss : List Stroke} {x y : Nat} {ch : Char}
    (h : ofStrokes ss x y = some ch) : ∃ s ∈ ss, s.ink x y = some ch := by
  induction ss with
  | nil => contradiction
  | cons s ss ih =>
      rcases Option.or_eq_some_iff.1 h with later | ⟨_, here⟩
      · obtain ⟨t, mem, ink⟩ := ih later
        exact ⟨t, List.mem_cons_of_mem _ mem, ink⟩
      · exact ⟨s, List.mem_cons_self, here⟩

theorem Ink.ofStrokes_eq_none_iff {ss : List Stroke} {x y : Nat} :
    ofStrokes ss x y = .none ↔ ∀ s ∈ ss, s.ink x y = .none := by
  induction ss with
  | nil => simp [ofStrokes, none]
  | cons s ss ih =>
      rw [ofStrokes, overlay, Option.or_eq_none_iff, ih, List.forall_mem_cons, and_comm]

theorem Ink.exists_of_flatMap {α : Type} {parts : List α} {f : α → List Stroke} {x y : Nat}
    {ch : Char} (h : ofStrokes (parts.flatMap f) x y = some ch) :
    ∃ p ∈ parts, ofStrokes (f p) x y = some ch := by
  induction parts with
  | nil => contradiction
  | cons p parts ih =>
      rw [List.flatMap_cons, ofStrokes_append] at h
      rcases Option.or_eq_some_iff.1 h with later | ⟨_, here⟩
      · obtain ⟨q, mem, ink⟩ := ih later
        exact ⟨q, List.mem_cons_of_mem p mem, ink⟩
      · exact ⟨p, List.mem_cons_self, here⟩

/-- Parts of a drawing that agree on the ink at a point leave just that ink. -/
theorem Ink.ofStrokes_flatMap {α : Type} {parts : List α} {f : α → List Stroke} {x y : Nat}
    {p : α} (mem : p ∈ parts)
    (agree : ∀ q ∈ parts, ∀ ch, ofStrokes (f q) x y = some ch → ofStrokes (f p) x y = some ch) :
    ofStrokes (parts.flatMap f) x y = ofStrokes (f p) x y := by
  cases all : ofStrokes (parts.flatMap f) x y with
  | some ch =>
      obtain ⟨q, mem, ink⟩ := exists_of_flatMap all
      exact (agree q mem ch ink).symm
  | none =>
      refine (ofStrokes_eq_none_iff.2 fun s drawn => ?_).symm
      exact ofStrokes_eq_none_iff.1 all s (List.mem_flatMap.2 ⟨p, mem, drawn⟩)

/-- Parts that leave the same ink at a point leave the same ink there together. -/
theorem Ink.ofStrokes_flatMap_congr {α : Type} {parts : List α} {f g : α → List Stroke} {x y : Nat}
    (same : ∀ p ∈ parts, ofStrokes (f p) x y = ofStrokes (g p) x y) :
    ofStrokes (parts.flatMap f) x y = ofStrokes (parts.flatMap g) x y := by
  induction parts with
  | nil => rfl
  | cons p parts ih =>
      obtain ⟨here, behind⟩ := List.forall_mem_cons.1 same
      rw [List.flatMap_cons, List.flatMap_cons, ofStrokes_append, ofStrokes_append, overlay,
        overlay, here, ih behind]

namespace Drawing

variable {w h x y : Nat} {ch : Char} {m n : Drawing Unit} {i j : Ink}

/-- On every canvas of this size the drawing succeeds, and all it changes is its ink. -/
def Paints (w h : Nat) (m : Drawing Unit) (i : Ink) : Prop :=
  ∀ c : Canvas, c.width = w → c.height = h →
    ∃ c', m c = .ok () c' ∧ c'.width = w ∧ c'.height = h ∧
      ∀ x y, c'.cell x y = (i x y).or (c.cell x y)

theorem Paints.pure : Paints w h (return) .none :=
  fun c hw hh => ⟨c, rfl, hw, hh, fun _ _ => rfl⟩

theorem Paints.bind (first : Paints w h m i) (second : Paints w h n j) :
    Paints w h (do m; n) (.overlay j i) := by
  intro c hw hh
  obtain ⟨c₁, run₁, hw₁, hh₁, cell₁⟩ := first c hw hh
  obtain ⟨c₂, run₂, hw₂, hh₂, cell₂⟩ := second c₁ hw₁ hh₁
  refine ⟨c₂, ?_, hw₂, hh₂, ?_⟩
  · change EStateM.bind m (fun _ => n) c = _
    simp only [EStateM.bind, run₁, run₂]
  · intro x y
    rw [cell₂, cell₁, Ink.overlay, Option.or_assoc]

theorem Paints.congr (painted : Paints w h m i) (same : ∀ x y, i x y = j x y) :
    Paints w h m j := by
  rwa [show j = i from (funext fun x => funext fun y => same x y).symm]

theorem paints_check (hx : x < w) (hy : y < h) : Paints w h (check x y) .none := by
  rintro c rfl rfl
  have inside : c.contains x y = true := by simp [Canvas.contains, hx, hy]
  refine ⟨c, ?_, rfl, rfl, fun _ _ => rfl⟩
  change (if c.contains x y = true then _ else _ : Drawing Unit) c = _
  rw [if_pos inside]
  rfl

theorem paints_put (hx : x < w) (hy : y < h) :
    Paints w h (modify (·.put x y ch)) (.block x x y y ch) := by
  rintro c rfl rfl
  have inside : c.contains x y = true := by simp [Canvas.contains, hx, hy]
  refine ⟨c.put x y ch, rfl, Canvas.width_put, Canvas.height_put, ?_⟩
  intro x' y'
  by_cases here : x' = x ∧ y' = y
  · obtain ⟨rfl, rfl⟩ := here
    simp [Canvas.cell_put_self inside, Ink.block]
  · rw [Canvas.cell_put_of_ne (by omega), Ink.block, if_neg (by omega), Option.none_or]

theorem paints_set (hx : x < w) (hy : y < h) :
    Paints w h (set x y ch) (.block x x y y ch) :=
  ((paints_check hx hy).bind (paints_put hx hy)).congr fun _ _ => by
    simp [Ink.overlay, Ink.none]

theorem paints_setRight (n x : Nat) (hx : x + n < w) (hy : y < h) :
    Paints w h (setRight x y ch (n + 1)) (.block x (x + n) y y ch) := by
  induction n generalizing x with
  | zero => exact ((paints_set hx hy).bind .pure).congr fun _ _ => rfl
  | succ n ih =>
      refine ((paints_set (by omega) hy).bind (ih (x + 1) (by omega))).congr fun x' y' => ?_
      exact Ink.block_over_block fun _ _ => by omega

theorem paints_setDown (n y : Nat) (hx : x < w) (hy : y + n < h) :
    Paints w h (setDown x y ch (n + 1)) (.block x x y (y + n) ch) := by
  induction n generalizing y with
  | zero => exact ((paints_set hx hy).bind .pure).congr fun _ _ => rfl
  | succ n ih =>
      refine ((paints_set hx (by omega)).bind (ih (y + 1) (by omega))).congr fun x' y' => ?_
      exact Ink.block_over_block fun _ _ => by omega

theorem paints_setChars (chs : List Char) (x : Nat) (hx : x + chs.length ≤ w) (hy : y < h) :
    Paints w h (setChars x y chs) (.chars x y chs) := by
  induction chs generalizing x with
  | nil => exact Paints.pure.congr fun _ _ => by simp [Ink.chars, Ink.none]
  | cons c chs ih =>
      rw [List.length_cons] at hx
      have rest := ih (x + 1) (by omega)
      rw [setChars]
      split
      · next blank =>
          subst blank
          exact rest.congr fun _ _ => Ink.chars_cons_blank
      · next ink => exact ((paints_set (by omega) hy).bind rest).congr fun _ _ => Ink.chars_cons ink

theorem paints_text (s : String) (fits : s ≠ "" → x + s.length ≤ w ∧ y < h) :
    Paints w h (text x y s) (.chars x y s.toList) := by
  by_cases empty : s = ""
  · subst empty
    exact Paints.pure.congr fun _ _ => by simp [Ink.chars, Ink.none]
  · obtain ⟨hx, hy⟩ := fits empty
    have positive := Nat.pos_of_ne_zero (mt String.length_eq_zero_iff.1 empty)
    have letters : Paints w h (setChars x y s.toList) (.chars x y s.toList) :=
      paints_setChars s.toList x (by rwa [String.length_toList]) hy
    simp only [text, empty, if_false]
    exact ((paints_check (by omega) hy).bind letters).congr fun _ _ => by
      simp [Ink.overlay, Ink.none]

theorem paints_hline (x0 x1 : Nat) (hx : max x0 x1 < w) (hy : y < h) :
    Paints w h (hline x0 x1 y ch) (.block (min x0 x1) (max x0 x1) y y ch) := by
  have line : Paints w h (setRight (min x0 x1) y ch (max x0 x1 - min x0 x1 + 1)) _ :=
    paints_setRight (max x0 x1 - min x0 x1) (min x0 x1) (by omega) hy
  rw [show min x0 x1 + (max x0 x1 - min x0 x1) = max x0 x1 by omega] at line
  exact ((paints_check (by omega) hy).bind ((paints_check hx hy).bind line)).congr
    fun _ _ => by simp [Ink.overlay, Ink.none]

theorem paints_vline (y0 y1 : Nat) (hx : x < w) (hy : max y0 y1 < h) :
    Paints w h (vline x y0 y1 ch) (.block x x (min y0 y1) (max y0 y1) ch) := by
  have line : Paints w h (setDown x (min y0 y1) ch (max y0 y1 - min y0 y1 + 1)) _ :=
    paints_setDown (max y0 y1 - min y0 y1) (min y0 y1) hx (by omega)
  rw [show min y0 y1 + (max y0 y1 - min y0 y1) = max y0 y1 by omega] at line
  exact ((paints_check hx (by omega)).bind ((paints_check hx hy).bind line)).congr
    fun _ _ => by simp [Ink.overlay, Ink.none]

theorem paints_frame (x0 y0 x1 y1 : Nat) (hx : max x0 x1 < w) (hy : max y0 y1 < h) :
    Paints w h (frame x0 y0 x1 y1)
      (.frame (min x0 x1) (max x0 x1) (min y0 y1) (max y0 y1)) := by
  have hlr : min x0 x1 ≤ max x0 x1 := by omega
  have htb : min y0 y1 ≤ max y0 y1 := by omega
  unfold frame
  dsimp only
  generalize min x0 x1 = l at *
  generalize max x0 x1 = r at *
  generalize min y0 y1 = t at *
  generalize max y0 y1 = b at *
  have row (y : Nat) (below : y < h) :
      Paints w h (hline l r y Glyph.horizontal) (.block l r y y Glyph.horizontal) := by
    have line : Paints w h (hline l r y Glyph.horizontal) _ := paints_hline l r (by omega) below
    rwa [Nat.min_eq_left hlr, Nat.max_eq_right hlr] at line
  have column (x : Nat) (inside : x < w) :
      Paints w h (vline x t b Glyph.vertical) (.block x x t b Glyph.vertical) := by
    have line : Paints w h (vline x t b Glyph.vertical) _ := paints_vline t b inside (by omega)
    rwa [Nat.min_eq_left htb, Nat.max_eq_right htb] at line
  have corner (x y : Nat) (inside : x < w) (below : y < h) :
      Paints w h (set x y Glyph.corner) (.block x x y y Glyph.corner) :=
    paints_set inside below
  have checked : Paints w h (check r b) .none := paints_check hx hy
  split
  · next narrow =>
      refine (checked.bind (column l (by omega))).congr fun x y => ?_
      simp only [Ink.overlay, Ink.none, Option.or_none, Ink.block, Ink.frame, narrow, if_true]
  · next wide =>
      split
      · next flat =>
          refine (checked.bind (row t (by omega))).congr fun x y => ?_
          simp only [Ink.overlay, Ink.none, Option.or_none, Ink.block, Ink.frame, wide, flat,
            if_true, if_false]
      · next high =>
          refine (checked.bind ((row t (by omega)).bind ((row b hy).bind
            ((column l (by omega)).bind ((column r hx).bind ((corner l t (by omega) (by omega)).bind
              ((corner r t hx (by omega)).bind ((corner l b (by omega) hy).bind
                (corner r b hx hy))))))))).congr fun x y => ?_
          rw [Ink.overlay, Ink.none, Option.or_none]
          exact Ink.frame_of_lines (by omega) (by omega)

end Drawing

theorem Stroke.paints_draw {w h : Nat} (s : Stroke) (fits : s.Fits w h) :
    Drawing.Paints w h s.draw s.ink := by
  cases s with
  | glyph x y ch => exact Drawing.paints_set fits.1 fits.2
  | text x y s => exact Drawing.paints_text s fits
  | hline x0 x1 y ch => exact Drawing.paints_hline x0 x1 fits.1 fits.2
  | vline x y0 y1 ch => exact Drawing.paints_vline y0 y1 fits.1 fits.2
  | frame x0 y0 x1 y1 => exact Drawing.paints_frame x0 y0 x1 y1 fits.1 fits.2

theorem Drawing.paints_forM {w h : Nat} (ss : List Stroke) (fit : ∀ s ∈ ss, s.Fits w h) :
    Paints w h (ss.forM Stroke.draw) (.ofStrokes ss) := by
  induction ss with
  | nil => exact .pure
  | cons s ss ih =>
      exact (s.paints_draw (fit s List.mem_cons_self)).bind
        (ih fun t mem => fit t (List.mem_cons_of_mem s mem))

/-- Strokes that fit are all drawn, and what they change is their ink. -/
theorem Canvas.draw_of_fits (c : Canvas) (ss : List Stroke)
    (fit : ∀ s ∈ ss, s.Fits c.width c.height) :
    ∃ drawn, c.draw ss = .ok drawn ∧ drawn.width = c.width ∧ drawn.height = c.height ∧
      ∀ x y, drawn.cell x y = (Ink.ofStrokes ss x y).or (c.cell x y) := by
  obtain ⟨drawn, run, hw, hh, cells⟩ := Drawing.paints_forM ss fit c rfl rfl
  refine ⟨drawn, ?_, hw, hh, cells⟩
  simp only [Canvas.draw, EStateM.run, run]

end SequenceChart
