import SequenceChart.Canvas.Lemmas
import SequenceChart.Document.Text
import SequenceChart.Proofs.NormalForm

/-!
A canvas written as text. The rows of a canvas are its cells, and the text is the rows, whether
they are joined or the cells are written one by one: where no cell holds a line feed the rows are
found again between the line feeds of the text.
-/

namespace SequenceChart

namespace Text

/-- Splitting undoes joining unless a line feed stands inside a line. No lines at all would be
joined like one empty line. -/
theorem splitLines_joinLines {lines : List String} (some_line : lines ≠ [])
    (inside : ∀ line ∈ lines, '\n' ∉ line.toList) : splitLines (joinLines lines) = lines := by
  have pieces : ∀ cs ∈ lines.map String.toList, '\n' ∉ cs := by
    rw [List.forall_mem_map]
    exact inside
  have joined : (joinLines lines).toList = ['\n'].intercalate (lines.map String.toList) := by
    rw [joinLines, String.toList_intercalate]
    rfl
  have back : (String.ofList ∘ String.toList) = id := funext fun _ => String.ofList_toList
  rw [splitLines, joined, List.splitOn_intercalate '\n' pieces (mt List.map_eq_nil_iff.1 some_line),
    List.map_map, back, List.map_id]

theorem mem_joinLines {lines : List String} {c : Char} (mem : c ∈ (joinLines lines).toList) :
    c = '\n' ∨ ∃ line ∈ lines, c ∈ line.toList := by
  rw [joinLines, String.toList_intercalate] at mem
  refine (Body.mem_intercalate mem).imp List.mem_singleton.1 fun inside => ?_
  obtain ⟨_, chars, here⟩ := inside
  obtain ⟨line, part, rfl⟩ := List.mem_map.1 chars
  exact ⟨line, part, here⟩

/-- Lines of one length, with a line feed behind each but the last. -/
theorem length_joinLines {n : Nat} {lines : List String} (even : ∀ line ∈ lines, line.length = n) :
    (joinLines lines).length = n * lines.length + (lines.length - 1) := by
  induction lines with
  | nil => rfl
  | cons line lines ih =>
      obtain ⟨here, others⟩ := List.forall_mem_cons.1 even
      cases lines with
      | nil => rw [joinLines, String.intercalate_singleton, here]; simp
      | cons next lines =>
          have rest := ih others
          rw [joinLines] at rest
          rw [joinLines, String.intercalate_cons_cons, String.length_append, String.length_append,
            rest, here]
          simp only [List.length_cons, Nat.mul_add, Nat.mul_one]
          have feed : "\n".length = 1 := rfl
          omega

/-! Texts written piece by piece. -/

theorem foldl_push (f : Nat → Char) (xs : List Nat) (out : String) :
    xs.foldl (fun out x => out.push (f x)) out = out ++ String.ofList (xs.map f) := by
  induction xs generalizing out with
  | nil => simp
  | cons x xs ih =>
      rw [List.foldl_cons, ih]
      apply String.toList_injective
      simp

/-- Texts one after the other, with a line feed behind each that has another one behind it, are
joined texts. -/
theorem foldl_separated {f : Nat → String} {step : String → Nat → String} {n : Nat}
    (adds : ∀ out y, y < n → step out y = out ++ f y ++ if y + 1 < n then "\n" else "") :
    (List.range n).foldl step "" = joinLines ((List.range n).map f) := by
  -- By induction on how many texts have been passed; only the last one ends without a line feed.
  have passed : ∀ k < n, (List.range (k + 1)).foldl step "" =
      joinLines ((List.range (k + 1)).map f) ++ if k + 1 < n then "\n" else "" := by
    intro k below
    induction k with
    | zero => simpa [joinLines] using adds "" 0 below
    | succ k ih =>
        have some_text : (List.range (k + 1)).map f ≠ [] := by simp
        rw [List.range_succ, List.foldl_append, ih (by omega), if_pos below, List.foldl_cons,
          List.foldl_nil, adds _ _ below, List.map_append, joinLines, joinLines,
          String.intercalate_append_of_ne_nil some_text (by simp), List.map_singleton,
          String.intercalate_singleton]
  cases n with
  | zero => rfl
  | succ k => simpa using passed k (Nat.lt_succ_self k)

end Text

namespace Canvas

variable {c : Canvas} {row : String}

/-- Rows end inside the array of cells. -/
theorem row_end_le_size {y : Nat} (below : y < c.height) : (y + 1) * c.width ≤ c.cells.size := by
  rw [c.size_cells, Nat.mul_comm]
  exact Nat.mul_le_mul_left _ below

/-- One row as it is shown. -/
def rowText (c : Canvas) (y : Nat) : String :=
  String.ofList ((List.range c.width).map fun x => (c.cell x y).getD ' ')

/-- The rows hold the cells in order. -/
theorem rows_eq (c : Canvas) : c.rows = (List.range c.height).map c.rowText := by
  refine List.map_congr_left fun y mem => congrArg String.ofList ?_
  have below := List.mem_range.1 mem
  refine List.ext_getElem? fun x => ?_
  rw [List.getElem?_map, List.getElem?_map, Array.getElem?_toList, Array.getElem?_extract]
  by_cases inside : x < c.width
  · have point : c.contains x y = true := by simp [contains, inside, below]
    have index := index_lt point
    rw [List.getElem?_range inside, if_pos (by rw [Nat.succ_mul]; omega)]
    simp only [cell, point, if_true, Option.map_some, Array.getElem?_eq_getElem index,
      Option.join_some]
  · rw [if_neg (by rw [Nat.succ_mul]; omega), List.getElem?_eq_none (by simpa using inside)]
    rfl

theorem length_rows (c : Canvas) : c.rows.length = c.height := by
  rw [rows_eq, List.length_map, List.length_range]

theorem length_of_mem_rows (mem : row ∈ c.rows) : row.length = c.width := by
  rw [rows_eq] at mem
  obtain ⟨y, _, rfl⟩ := List.mem_map.1 mem
  rw [rowText, String.length_ofList, List.length_map, List.length_range]

theorem cell_of_mem_rows {ch : Char} (mem : row ∈ c.rows) (here : ch ∈ row.toList) :
    ∃ x y, (c.cell x y).getD ' ' = ch := by
  rw [rows_eq] at mem
  obtain ⟨y, _, rfl⟩ := List.mem_map.1 mem
  rw [rowText, String.toList_ofList] at here
  obtain ⟨x, _, same⟩ := List.mem_map.1 here
  exact ⟨x, y, same⟩

theorem no_feed_of_mem_rows (cells : ∀ x y, c.cell x y ≠ some '\n') (mem : row ∈ c.rows) :
    '\n' ∉ row.toList := by
  intro feed
  obtain ⟨x, y, here⟩ := cell_of_mem_rows mem feed
  cases cell : c.cell x y with
  | none =>
      rw [cell] at here
      exact absurd here (by decide)
  | some ch =>
      rw [cell] at here
      exact cells x y (cell.trans (congrArg some here))

/-! The canvas cell by cell. -/

/-- Going through the columns puts the row behind what was there. -/
theorem foldl_columns {y : Nat} (below : y < c.height) (out : String) :
    (List.range c.width).foldl
      (fun out x => out.push ((c.cells[y * c.width + x]?).join.getD ' ')) out =
        out ++ c.rowText y := by
  refine (Text.foldl_push _ _ out).trans (congrArg (out ++ String.ofList ·) ?_)
  refine List.map_congr_left fun x mem => ?_
  have point : c.contains x y = true := by simp [contains, List.mem_range.1 mem, below]
  rw [cell, if_pos point]

end Canvas

namespace Document

/-- All cells, and the line feeds between the rows. -/
theorem length_text (c : Canvas) :
    (text c).length = c.width * c.height + (c.height - 1) := by
  rw [text, Text.length_joinLines fun row => Canvas.length_of_mem_rows, Canvas.length_rows]

/-- Rows without cells leave nothing but the line feeds between them. -/
theorem feeds_of_text {c : Canvas} (flat : c.width = 0) : ∀ ch ∈ (text c).toList, ch = '\n' := by
  intro ch mem
  refine (Text.mem_joinLines mem).resolve_right ?_
  rintro ⟨row, part, here⟩
  have none : row = "" := by
    rw [← String.length_eq_zero_iff, Canvas.length_of_mem_rows part, flat]
  rw [none] at here
  contradiction

theorem splitLines_text {c : Canvas} (some_row : 0 < c.height)
    (cells : ∀ x y, c.cell x y ≠ some '\n') : Text.splitLines (text c) = c.rows := by
  refine Text.splitLines_joinLines ?_ fun row mem => Canvas.no_feed_of_mem_rows cells mem
  rw [← List.length_pos_iff, Canvas.length_rows]
  exact some_row

/-- Going through the grid cell by cell never leaves the array of cells, and it gives the text whose
lines are the rows. -/
theorem display_is_text (c : Canvas) :
    (∀ y < c.height, (y + 1) * c.width ≤ c.cells.size) ∧ c.display = text c := by
  refine ⟨fun y => Canvas.row_end_le_size, ?_⟩
  rw [text, c.rows_eq]
  refine Text.foldl_separated fun out y below => ?_
  change (if y + 1 < c.height then _ else _) = _
  rw [Canvas.foldl_columns below]
  split
  · rw [String.push_eq_append]
    rfl
  · rw [String.append_empty]

/-- Rows without cells are shown as the line feed between them. -/
example : (Canvas.blank 0 2).map Canvas.display = .ok "\n" := rfl

end Document

end SequenceChart
