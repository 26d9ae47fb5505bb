import SequenceChart.Proofs.HeaderDrawing

/-!
Other names for the participants. Placing and drawing look names up and compare them for equality,
and measure them; neither their order nor their letters matter. So participants who get new names,
as long as the old ones and no two the same, stay where they are, and on the drawing nothing changes
but the letters in their boxes.
-/

namespace SequenceChart

/-- New names for the given ones, as long as these and no two the same. -/
structure Renaming (names : List String) where
  apply : String → String
  inj : ∀ name ∈ names, ∀ name' ∈ names, apply name = apply name' → name = name'
  length_apply : ∀ name ∈ names, (apply name).length = name.length

instance (names : List String) : CoeFun (Renaming names) fun _ => String → String where
  coe := Renaming.apply

def Statement.renamed (f : String → String) : Statement → Statement
  | .declare names => .declare (names.map f)
  | .message sender receiver text => .message (f sender) (f receiver) text
  | .note side participant text => .note side (f participant) text
  | .space gap => .space gap

def Diagram.renamed (f : String → String) (d : Diagram) : Diagram :=
  d.map (Statement.renamed f)

def Column.renamed (f : String → String) (c : Column) : Column :=
  { c with name := f c.name }

/-- Whether a character of the name stands at the point. Blanks of a name count. -/
def Column.NameAt (c : Column) (x y : Nat) : Prop :=
  y = 1 ∧ c.boxStart + 2 ≤ x ∧ x < c.boxStart + 2 + c.name.length

/-- The same layout with other names at the columns. -/
def Layout.renamed (f : String → String) (l : Layout) : Layout :=
  { l with columns := l.columns.map (Column.renamed f) }

namespace Renaming

variable {names xs : List String} {name name' : String}

theorem apply_eq_iff (r : Renaming names) (mem : name ∈ names) (mem' : name' ∈ names) :
    r name = r name' ↔ name = name' :=
  ⟨r.inj name mem name' mem', congrArg r⟩

theorem apply_mem_map_iff (r : Renaming names) (among : ∀ x ∈ xs, x ∈ names)
    (mem : name ∈ names) : r name ∈ xs.map r ↔ name ∈ xs := by
  rw [List.mem_map]
  constructor
  · rintro ⟨x, here, same⟩
    rwa [← r.inj x (among x here) name mem same]
  · exact fun here => ⟨name, here, rfl⟩

theorem eraseDups_map (r : Renaming names) (among : ∀ x ∈ xs, x ∈ names) :
    (xs.map r).eraseDups = xs.eraseDups.map r := by
  -- Whether a name is kept depends on those before it, so the last one is added at the end.
  induction xs using List.reverseRecOn with
  | nil => rfl
  | append_singleton xs last ih =>
      obtain ⟨before, here⟩ := List.forall_mem_append.1 among
      have mem := r.apply_mem_map_iff before (List.forall_mem_singleton.1 here)
      rw [List.map_append, List.map_singleton, eraseDups_concat, eraseDups_concat, ih before]
      by_cases again : last ∈ xs
      · rw [if_pos again, if_pos (mem.2 again)]
      · rw [if_neg again, if_neg (mt mem.1 again), List.map_append, List.map_singleton]

theorem idxOf_map (r : Renaming names) (among : ∀ x ∈ xs, x ∈ names) (mem : name ∈ names) :
    (xs.map r).idxOf (r name) = xs.idxOf name := by
  induction xs with
  | nil => rfl
  | cons x xs ih =>
      obtain ⟨here, behind⟩ := List.forall_mem_cons.1 among
      have same : (r x == r name) = (x == name) :=
        Bool.eq_iff_iff.2 (by simpa using r.apply_eq_iff here mem)
      rw [List.map_cons, List.idxOf_cons, List.idxOf_cons, same, ih behind]

/-- Names are found where the old ones were. -/
theorem idxOf_apply (r : Renaming names) (mem : name ∈ names) :
    (names.map r).idxOf (r name) = names.idxOf name :=
  r.idxOf_map (fun _ => id) mem

theorem halfBox_apply (r : Renaming names) (mem : name ∈ names) :
    halfBox (r name) = halfBox name := by
  rw [halfBox, halfBox, r.length_apply name mem]

end Renaming

namespace Clearance

variable {names : List String} {s : Statement}

theorem halfAt_map (r : Renaming names) (i : Nat) : halfAt (names.map r) i = halfAt names i := by
  rw [halfAt, halfAt, List.getElem?_map]
  cases here : names[i]? with
  | none => rfl
  | some name => exact r.halfBox_apply (List.mem_of_getElem? here)

theorem ofStatement_renamed (r : Renaming names) (mentioned : ∀ name ∈ s.mentions, name ∈ names) :
    ofStatement (names.map r) (s.renamed r) = ofStatement names s := by
  cases s with
  | declare _ | space _ => rfl
  | message sender receiver text =>
      simp only [Statement.mentions, List.forall_mem_cons] at mentioned
      simp only [Statement.renamed, ofStatement, r.idxOf_apply mentioned.1,
        r.idxOf_apply mentioned.2.1, halfAt_map]
  | note side participant text =>
      simp only [Statement.mentions, List.forall_mem_cons] at mentioned
      cases side <;>
        simp only [Statement.renamed, ofStatement, r.idxOf_apply mentioned.1, halfAt_map]

theorem ofBoxes_map (r : Renaming names) : ofBoxes (names.map r) = ofBoxes names := by
  simp only [ofBoxes, List.length_map, halfAt_map]

end Clearance

namespace Statement

variable {names : List String} {name : String} {s : Statement}

theorem mentions_renamed (f : String → String) (s : Statement) :
    (s.renamed f).mentions = s.mentions.map f := by
  cases s <;> rfl

theorem rows_renamed (r : Renaming names) (mentioned : ∀ name ∈ s.mentions, name ∈ names) :
    (s.renamed r).rows = s.rows := by
  cases s with
  | declare _ | note _ _ _ | space _ => rfl
  | message sender receiver text =>
      simp only [mentions, List.forall_mem_cons] at mentioned
      simp only [renamed, rows, r.apply_eq_iff mentioned.1 mentioned.2.1]

theorem placement_renamed (r : Renaming names) (mentioned : ∀ name ∈ s.mentions, name ∈ names) :
    (s.renamed r).placement (names.map r) = s.placement names := by
  cases s with
  | declare _ | space _ => rfl
  | message sender receiver text =>
      simp only [mentions, List.forall_mem_cons] at mentioned
      simp only [renamed, placement, r.idxOf_apply mentioned.1, r.idxOf_apply mentioned.2.1]
  | note side participant text =>
      simp only [mentions, List.forall_mem_cons] at mentioned
      simp only [renamed, placement, r.idxOf_apply mentioned.1]

theorem reachLeft_renamed (r : Renaming names) (mentioned : ∀ name ∈ s.mentions, name ∈ names)
    (mem : name ∈ names) : (s.renamed r).reachLeft (r name) = s.reachLeft name := by
  cases s with
  | declare _ | message _ _ _ | space _ => rfl
  | note side participant text =>
      simp only [mentions, List.forall_mem_cons] at mentioned
      cases side with
      | left => simp only [renamed, reachLeft, r.apply_eq_iff mentioned.1 mem]
      | right => rfl

theorem reachRight_renamed (r : Renaming names) (mentioned : ∀ name ∈ s.mentions, name ∈ names)
    (mem : name ∈ names) : (s.renamed r).reachRight (r name) = s.reachRight name := by
  cases s with
  | declare _ | space _ => rfl
  | message sender receiver text =>
      simp only [mentions, List.forall_mem_cons] at mentioned
      simp only [renamed, reachRight, r.apply_eq_iff mentioned.1 mem,
        r.apply_eq_iff mentioned.2.1 mem]
  | note side participant text =>
      simp only [mentions, List.forall_mem_cons] at mentioned
      cases side with
      | left => rfl
      | right => simp only [renamed, reachRight, r.apply_eq_iff mentioned.1 mem]

end Statement

namespace Diagram

variable {d : Diagram}

/-- What a new name does not change in a statement it does not change in a diagram. -/
theorem map_renamed {α : Type} {f g : Statement → α} (r : Renaming d.participants)
    (same : ∀ s : Statement, (∀ name ∈ s.mentions, name ∈ d.participants) →
      f (s.renamed r) = g s) : (d.renamed r).map f = d.map g := by
  rw [renamed, List.map_map]
  exact List.map_congr_left fun s mem => same s fun _ => mem_participants mem

theorem participants_renamed (r : Renaming d.participants) :
    (d.renamed r).participants = d.participants.map r := by
  have mentions : (d.renamed r).flatMap Statement.mentions =
      (d.flatMap Statement.mentions).map r := by
    rw [renamed, List.flatMap_map, List.map_flatMap]
    exact congrArg (fun f => d.flatMap f) (funext (Statement.mentions_renamed r))
  rw [participants, mentions]
  exact r.eraseDups_map fun _ mem => List.mem_eraseDups.2 mem

theorem apply_mem_participants (r : Renaming d.participants) {name : String}
    (mem : name ∈ d.participants) : r name ∈ (d.renamed r).participants := by
  rw [participants_renamed]
  exact List.mem_map_of_mem mem

theorem rows_renamed (r : Renaming d.participants) : (d.renamed r).rows = d.rows := by
  rw [rows_eq_sum, rows_eq_sum, map_renamed r fun _ => Statement.rows_renamed r]

theorem clearances_renamed (r : Renaming d.participants) :
    Clearance.ofDiagram (d.participants.map r) (d.renamed r) =
      Clearance.ofDiagram d.participants d := by
  rw [Clearance.ofDiagram, Clearance.ofDiagram, Clearance.ofBoxes_map, List.flatMap_def,
    List.flatMap_def, map_renamed r fun _ => Clearance.ofStatement_renamed r]

end Diagram

namespace Layout

variable {d : Diagram} {name : String}

theorem leftReach_renamed (r : Renaming d.participants) (mem : name ∈ d.participants) :
    leftReach (d.renamed r) (r name) = leftReach d name := by
  rw [leftReach, leftReach, r.halfBox_apply mem,
    Diagram.map_renamed r fun _ mentioned => Statement.reachLeft_renamed r mentioned mem]

theorem rightReach_renamed (r : Renaming d.participants) (mem : name ∈ d.participants) :
    rightReach (d.renamed r) (r name) = rightReach d name := by
  rw [rightReach, rightReach, r.halfBox_apply mem,
    Diagram.map_renamed r fun _ mentioned => Statement.reachRight_renamed r mentioned mem]

theorem lifelineAt_renamed (r : Renaming d.participants) (i : Nat) :
    lifelineAt (d.renamed r) i = lifelineAt d i := by
  have first : (((d.renamed r).participants.head?).map (leftReach (d.renamed r))).getD 0 =
      ((d.participants.head?).map (leftReach d)).getD 0 := by
    rw [Diagram.participants_renamed, List.head?_map]
    cases head : d.participants.head? with
    | none => rfl
    | some name => exact leftReach_renamed r (List.mem_of_head? head)
  rw [lifelineAt, lifelineAt, first, Diagram.participants_renamed, Diagram.clearances_renamed]

theorem columns_renamed (r : Renaming d.participants) :
    (ofDiagram (d.renamed r)).columns = (ofDiagram d).columns.map (Column.renamed r) := by
  apply List.ext_getElem?
  intro i
  rw [List.getElem?_map, getElem?_columns, getElem?_columns, Diagram.participants_renamed,
    List.getElem?_map, Diagram.map_renamed r fun _ => Statement.placement_renamed r,
    lifelineAt_renamed]
  cases here : d.participants[i]? with
  | none => rfl
  | some name =>
      have mem := List.mem_of_getElem? here
      simp only [Option.map_some, columnOf, Column.renamed, r.halfBox_apply mem,
        leftReach_renamed r mem, rightReach_renamed r mem]

theorem bandsFrom_renamed {names : List String} (r : Renaming names) (top : Nat)
    (mentioned : ∀ s ∈ d, ∀ name ∈ s.mentions, name ∈ names) :
    bandsFrom (names.map r) top (d.renamed r) = bandsFrom names top d := by
  induction d generalizing top with
  | nil => rfl
  | cons s d ih =>
      obtain ⟨here, behind⟩ := List.forall_mem_cons.1 mentioned
      have rest := ih (top + s.rows) behind
      rw [Diagram.renamed] at rest ⊢
      rw [List.map_cons, bandsFrom, bandsFrom, Statement.rows_renamed r here,
        Statement.placement_renamed r here, rest]

/-- The layout stays as it is, but for the names at its columns. -/
theorem ofDiagram_renamed (r : Renaming d.participants) :
    ofDiagram (d.renamed r) = (ofDiagram d).renamed r := by
  have columns : columnsOf (d.renamed r) = (columnsOf d).map (Column.renamed r) :=
    columns_renamed r
  have bands := bandsFrom_renamed r headerRows fun _ mem _ => Diagram.mem_participants mem
  rw [ofDiagram, columns, Diagram.rows_renamed, Diagram.participants_renamed, bands, List.map_map]
  rfl

theorem lifelineOf?_renamed (r : Renaming d.participants) (mem : name ∈ d.participants) :
    (ofDiagram (d.renamed r)).lifelineOf? (r name) = (ofDiagram d).lifelineOf? name := by
  rw [lifelineOf?_eq mem, lifelineOf?_eq (Diagram.apply_mem_participants r mem),
    Diagram.participants_renamed, r.idxOf_apply mem, lifelineAt_renamed]

theorem indexOf?_renamed (r : Renaming d.participants) (mem : name ∈ d.participants) :
    (ofDiagram (d.renamed r)).indexOf? (r name) = (ofDiagram d).indexOf? name := by
  rw [indexOf?_eq mem, indexOf?_eq (Diagram.apply_mem_participants r mem),
    Diagram.participants_renamed, r.idxOf_apply mem]

end Layout

/-! On the drawing the names are all that changes. -/

theorem Statement.strokes_renamed {d : Diagram} {s : Statement} (r : Renaming d.participants)
    (mem : s ∈ d) (band : Band) :
    (s.renamed r).strokes (Layout.ofDiagram (d.renamed r)) band =
      s.strokes (Layout.ofDiagram d) band := by
  have mentioned : ∀ name ∈ s.mentions, name ∈ d.participants :=
    fun _ => Diagram.mem_participants mem
  cases s with
  | declare _ | space _ => rfl
  | message sender receiver text =>
      simp only [mentions, List.forall_mem_cons] at mentioned
      simp only [renamed, strokes, Layout.lifelineOf?_renamed r mentioned.1,
        Layout.lifelineOf?_renamed r mentioned.2.1, r.apply_eq_iff mentioned.1 mentioned.2.1]
  | note side participant text =>
      simp only [mentions, List.forall_mem_cons] at mentioned
      simp only [renamed, strokes, Layout.lifelineOf?_renamed r mentioned.1]

namespace Column

variable {c : Column} {x y : Nat}

theorem chars_of_not_nameAt (away : ¬ c.NameAt x y) :
    Ink.chars (c.boxStart + 2) 1 c.name.toList x y = none := by
  cases ink : Ink.chars (c.boxStart + 2) 1 c.name.toList x y with
  | none => rfl
  | some ch =>
      obtain ⟨row, left, right, _⟩ := Ink.bounds_of_chars ink
      rw [String.length_toList] at right
      exact absurd ⟨row, left, right⟩ away

theorem ink_header_of_not_nameAt (away : ¬ c.NameAt x y) :
    Ink.ofStrokes c.header x y =
      (Stroke.frame c.boxStart 0 (c.boxStop - 1) (headerRows - 1)).ink x y := by
  simp only [header, Ink.ofStrokes, Ink.overlay, Ink.none, Option.none_or]
  rw [Stroke.ink, chars_of_not_nameAt away, Option.none_or]

theorem nameAt_renamed {names : List String} (r : Renaming names) (mem : c.name ∈ names) :
    (c.renamed r).NameAt x y ↔ c.NameAt x y := by
  simp only [NameAt, renamed, r.length_apply c.name mem]
  exact Iff.rfl

end Column

namespace Layout

variable {d : Diagram} {c : Canvas} {p : Column} {x y : Nat}

theorem statementInk_renamed (r : Renaming d.participants) :
    statementInk (d.renamed r) = statementInk d := by
  have bands : (ofDiagram (d.renamed r)).bands = (ofDiagram d).bands := by
    rw [ofDiagram_renamed]
    rfl
  have strokes := List.flatMap_congr (l := d.zip (ofDiagram d).bands)
    fun p mem => Statement.strokes_renamed r (List.of_mem_zip mem).1 p.2
  rw [statementInk, statementInk, bands, ← strokes, Diagram.renamed, List.zip_map_left,
    List.flatMap_map]
  rfl

theorem frameInk_renamed (r : Renaming d.participants)
    (away : ∀ p ∈ (ofDiagram d).columns, ¬ p.NameAt x y) :
    Ink.ofStrokes (ofDiagram (d.renamed r)).frameStrokes x y =
      Ink.ofStrokes (ofDiagram d).frameStrokes x y := by
  have headers : Ink.ofStrokes (((ofDiagram d).columns.map (Column.renamed r)).flatMap
      Column.header) x y = Ink.ofStrokes ((ofDiagram d).columns.flatMap Column.header) x y := by
    rw [List.flatMap_map]
    refine Ink.ofStrokes_flatMap_congr fun p mem => ?_
    have away' := mt (Column.nameAt_renamed r (name_mem_participants mem)).1 (away p mem)
    rw [Column.ink_header_of_not_nameAt (away p mem), Column.ink_header_of_not_nameAt away']
    rfl
  rw [ofDiagram_renamed, frameStrokes, frameStrokes, Ink.ofStrokes_append, Ink.ofStrokes_append,
    Ink.overlay, Ink.overlay, renamed, headers, List.map_map]
  rfl

end Layout

/-- Two drawings that show the same but for the names in their boxes. -/
structure Canvas.Relettered (columns : List Column) (f : String → String) (c c' : Canvas) :
    Prop where
  width : c'.width = c.width
  height : c'.height = c.height
  rest : ∀ x y, (∀ p ∈ columns, ¬ p.NameAt x y) → c'.cell x y = c.cell x y
  inside : ∀ p ∈ columns, p.boxStart + 2 + p.name.length < p.boxStop
  before : ∀ p ∈ columns, Ink.Shows c.cell (p.boxStart + 2) 1 p.name.toList
  after : ∀ p ∈ columns, Ink.Shows c'.cell (p.boxStart + 2) 1 (f p.name).toList

namespace Layout

theorem relettered_of_render {d : Diagram} (r : Renaming d.participants) {c c' : Canvas}
    (drawn : (ofDiagram d).render d = .ok c)
    (drawn' : (ofDiagram (d.renamed r)).render (d.renamed r) = .ok c') :
    c.Relettered (ofDiagram d).columns r c' := by
  have size := size_of_render drawn
  have size' := size_of_render drawn'
  rw [ofDiagram_renamed] at size'
  constructor
  case width => exact size'.1.trans size.1.symm
  case height => exact size'.2.trans size.2.symm
  case rest =>
    intro x y away
    rw [cell_eq_or drawn', cell_eq_or drawn, statementInk_renamed, frameInk_renamed r away]
  case inside =>
    intro p mem
    have := (roomy_of_mem mem).boxStop_eq
    have := p.length_le_nameRoom
    omega
  case before => exact fun p mem => (holdsBox_of_mem drawn mem).shows_name
  case after =>
    intro p mem
    have mem' : p.renamed r ∈ (ofDiagram (d.renamed r)).columns := by
      rw [columns_renamed]
      exact List.mem_map_of_mem mem
    exact (holdsBox_of_mem drawn' mem').shows_name

/-- New names move nothing. The layout is the same but for the names, drawing fails as it did
before, and a drawing has the same size and shows the same outside the places of the names. -/
theorem drawing_renamed (d : Diagram) (r : Renaming d.participants) :
    let d' := d.renamed r
    ofDiagram d' = (ofDiagram d).renamed r ∧
    (∀ name ∈ d.participants, (ofDiagram d').indexOf? (r name) = (ofDiagram d).indexOf? name) ∧
    (∀ e, (ofDiagram d').render d' = .error e ↔ (ofDiagram d).render d = .error e) ∧
    ∀ c, (ofDiagram d).render d = .ok c →
      ∃ c', (ofDiagram d').render d' = .ok c' ∧ c.Relettered (ofDiagram d).columns r c' := by
  intro d'
  have layout : ofDiagram d' = (ofDiagram d).renamed r := ofDiagram_renamed r
  have errors (e : CanvasError) : (ofDiagram d').render d' = .error e ↔
      (ofDiagram d).render d = .error e := by
    rw [render_eq_error_iff, render_eq_error_iff, layout]
    exact Iff.rfl
  refine ⟨layout, fun name => indexOf?_renamed r, errors, fun c drawn => ?_⟩
  cases drawn' : (ofDiagram d').render d' with
  | ok c' => exact ⟨c', rfl, relettered_of_render r drawn drawn'⟩
  | error e =>
      rw [(errors e).1 drawn'] at drawn
      contradiction

/-- Names in alphabetical order that get names in the opposite order. -/
theorem drawing_renamed_backwards :
    let d : Diagram := [.message "a" "b" "on"]
    let d' : Diagram := [.message "y" "x" "on"]
    ∃ c c', (ofDiagram d).render d = .ok c ∧ (ofDiagram d').render d' = .ok c' ∧
      Ink.Shows c.cell 2 1 ['a'] ∧ Ink.Shows c'.cell 2 1 ['y'] ∧
      ∀ x y, y ≠ 1 → c'.cell x y = c.cell x y := by
  intro d d'
  let r : Renaming d.participants :=
    ⟨fun name => if name = "a" then "y" else "x", by decide, by decide⟩
  obtain ⟨c, drawn, _⟩ := render_of_small d (by decide)
  obtain ⟨_, _, _, drawings⟩ := drawing_renamed d r
  obtain ⟨c', drawn', same⟩ := drawings c drawn
  have first : ∃ p ∈ (ofDiagram d).columns, p.boxStart = 0 ∧ p.name = "a" := by decide +kernel
  obtain ⟨p, mem, start, name⟩ := first
  have before := same.before p mem
  have after := same.after p mem
  have renamed : r "a" = "y" := by simp [r]
  rw [start, name] at before after
  rw [renamed] at after
  exact ⟨c, c', drawn, drawn', before, after, fun x y other =>
    same.rest x y fun _ _ inside => other inside.1⟩

end Layout

end SequenceChart
