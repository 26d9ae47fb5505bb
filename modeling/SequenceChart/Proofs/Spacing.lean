import SequenceChart.Proofs.Fit

/-!
The columns of a layout. Boxes stand apart and in the order of the lifelines. What a column takes
to either side covers its box, its notes and its messages to itself, begins in the first column of
the chart at the earliest and ends at its width at the latest. Neither margin is wider than needed:
the first participant reaches the left one, and some participant the right one.
-/

namespace SequenceChart

theorem boxWidth_eq (name : String) :
    boxWidth name = name.length + if name.length % 2 = 1 then 4 else 5 := by
  simp only [boxWidth, halfBox]
  split <;> omega

theorem foldr_max_mem {xs : List Nat} (ne_nil : xs ≠ []) : xs.foldr max 0 ∈ xs := by
  rcases foldr_max_cases xs 0 with zero | mem
  · obtain ⟨x, mem⟩ := List.exists_mem_of_ne_nil xs ne_nil
    have le := le_foldr_max mem 0
    rw [zero] at le ⊢
    rwa [← Nat.le_zero.1 le]
  · exact mem

/-- The room that a chart of the given width keeps for a column. Distances are sums here, so none
of them is a difference that was cut off at zero. -/
structure Column.Roomy (d : Diagram) (width : Nat) (c : Column) : Prop where
  box : c.boxStart + boxWidth c.name = c.boxStop
  name_room : boxWidth c.name = c.name.length + if c.name.length % 2 = 1 then 4 else 5
  odd : boxWidth c.name % 2 = 1
  centred : c.boxStart + c.half = c.lifeline ∧ c.lifeline + 1 + c.half = c.boxStop
  leftReach : c.spanStart + c.left = c.lifeline
  before_box : c.spanStart ≤ c.boxStart
  behind_box : c.boxStop ≤ c.spanStop
  inside : c.spanStop ≤ width
  leftNote : ∀ text, .note .left c.name text ∈ d → c.spanStart + noteWidth text + 1 ≤ c.lifeline
  rightNote : ∀ text, .note .right c.name text ∈ d → c.lifeline + 2 + noteWidth text ≤ c.spanStop
  selfMessage : ∀ text, .message c.name c.name text ∈ d →
    c.lifeline + 1 + messageWidth text ≤ c.spanStop

namespace Layout

variable {d : Diagram} {i : Nat} {c : Column}

theorem columns_getElem?_iff : (ofDiagram d).columns[i]? = some c ↔ ∃ name,
    d.participants[i]? = some name ∧
      columnOf d (d.map (Statement.placement d.participants)) i name (lifelineAt d i) = c := by
  rw [getElem?_columns, Option.map_eq_some_iff]

theorem name_columns (d : Diagram) : (ofDiagram d).columns.map Column.name = d.participants := by
  apply List.ext_getElem?
  intro i
  rw [List.getElem?_map, getElem?_columns, Option.map_map]
  exact Option.map_id_apply

theorem name_mem_participants (mem : c ∈ (ofDiagram d).columns) : c.name ∈ d.participants := by
  rw [← name_columns]
  exact List.mem_map_of_mem mem

theorem indexOf?_eq {name : String} (mem : name ∈ d.participants) :
    (ofDiagram d).indexOf? name = some (d.participants.idxOf name) := by
  have among : (ofDiagram d).indexOf? name = d.participants.findIdx? (· == name) := by
    rw [← name_columns, List.findIdx?_map]
    rfl
  rw [among, List.findIdx?_eq_some_iff_findIdx_eq]
  exact ⟨List.idxOf_lt_length_of_mem mem, rfl⟩

theorem roomy_of_mem (mem : c ∈ (ofDiagram d).columns) : c.Roomy d (ofDiagram d).width := by
  obtain ⟨i, name, here, rfl⟩ := mem_columns mem
  have left := leftReach_le_lifelineAt here
  have half := halfBox_le_leftReach d name
  have right := halfBox_lt_rightReach d name
  have width := rightReach_le_width here
  have odd : boxWidth name = 2 * halfBox name + 1 := rfl
  constructor <;>
    simp only [Column.boxStart, Column.boxStop, Column.spanStart, Column.spanStop, columnOf]
  case name_room => exact boxWidth_eq name
  case leftNote =>
    intro text note
    have := leftNote_le_leftReach note
    omega
  case rightNote =>
    intro text note
    have := rightNote_le_rightReach note
    omega
  case selfMessage =>
    intro text message
    have := selfMessage_le_rightReach message
    omega
  all_goals omega

/-- Boxes have a free column between them, also where they are not neighbours. -/
theorem pairwise_columns (d : Diagram) : (ofDiagram d).columns.Pairwise fun c c' =>
    c.boxStop + 1 ≤ c'.boxStart ∧ c.lifeline < c'.lifeline := by
  rw [List.pairwise_iff_getElem]
  intro i j hi hj before
  obtain ⟨name, here, column⟩ := columns_getElem?_iff.1 (List.getElem?_eq_getElem hi)
  obtain ⟨name', here', column'⟩ := columns_getElem?_iff.1 (List.getElem?_eq_getElem hj)
  have apart := clear_of_lt before (List.getElem?_eq_some_iff.1 here').1
  rw [halfAt_eq here, halfAt_eq here'] at apart
  rw [← column, ← column']
  simp only [Column.boxStart, Column.boxStop, columnOf]
  omega

theorem spanStart_of_first (first : (ofDiagram d).columns.head? = some c) : c.spanStart = 0 := by
  rw [List.head?_eq_getElem?] at first
  obtain ⟨name, here, rfl⟩ := columns_getElem?_iff.1 first
  change lifelineAt d 0 - leftReach d name = 0
  rw [lifelineAt_zero, List.head?_eq_getElem?, here]
  exact Nat.sub_self _

theorem exists_spanStop_eq_width (mem : c ∈ (ofDiagram d).columns) :
    ∃ c ∈ (ofDiagram d).columns, c.spanStop = (ofDiagram d).width := by
  have ne_nil : (ofDiagram d).columns.map Column.spanStop ≠ [] :=
    List.ne_nil_of_mem (List.mem_map_of_mem mem)
  exact List.mem_map.1 (foldr_max_mem ne_nil)

/-- There is a column for each participant. Boxes stand apart in the order of their lifelines, each
column has the room it needs, and the chart is no wider than its columns. -/
theorem columns_spaced (d : Diagram) :
    let l := ofDiagram d
    l.columns.map Column.name = d.participants ∧
    l.columns.Pairwise (fun c c' => c.boxStop + 1 ≤ c'.boxStart ∧ c.lifeline < c'.lifeline) ∧
    (∀ c ∈ l.columns, c.Roomy d l.width) ∧
    (∀ c, l.columns.head? = some c →
      c.spanStart = 0 ∧ ∃ c' ∈ l.columns, c'.spanStop = l.width) ∧
    (l.columns = [] → l.width = 0) := by
  intro l
  refine ⟨name_columns d, pairwise_columns d, fun c => roomy_of_mem, ?_, ?_⟩
  · intro c first
    exact ⟨spanStart_of_first first, exists_spanStop_eq_width (List.mem_of_head? first)⟩
  · intro empty
    change (l.columns.map Column.spanStop).foldr max 0 = 0
    rw [empty]
    rfl

end Layout

end SequenceChart
