import SequenceChart.Proofs.TextDocument

/-!
A canvas written without the blanks at the ends of its rows and without the empty rows at its
bottom. Nothing but blanks is left out, so the size of the canvas is all that is needed to have its
rows back.
-/

namespace SequenceChart

namespace Text

/-- What is left out at the end of a list is one member over and over. -/
theorem dropTrailing_append_replicate {α : Type} [DecidableEq α] (a : α) (xs : List α) :
    dropTrailing (· == a) xs ++ List.replicate (xs.length - (dropTrailing (· == a) xs).length) a =
      xs := by
  have whole : dropTrailing (· == a) xs ++ xs.rtakeWhile (· == a) = xs :=
    List.rdropWhile_append_rtakeWhile
  have run : xs.rtakeWhile (· == a) = List.replicate (xs.rtakeWhile (· == a)).length a :=
    List.eq_replicate_of_mem fun x mem => by simpa using List.mem_rtakeWhile_imp mem
  have count := congrArg List.length whole
  rw [List.length_append] at count
  rw [← count, Nat.add_sub_cancel_left, ← run]
  exact whole

end Text

/-- A character that no place of the array holds stands nowhere on the canvas. -/
theorem Canvas.cell_ne_of_forall_cells {c : Canvas} {ch : Char} {x y : Nat}
    (cells : ∀ cell ∈ c.cells, cell ≠ some ch) : c.cell x y ≠ some ch := by
  rw [cell]
  split
  · intro here
    exact cells _ (Array.mem_of_getElem? (Option.join_eq_some_iff.1 here)) rfl
  · intro blank
    contradiction

namespace Document

/-! Rows from a trimmed text. -/

def blankRow (width : Nat) : String :=
  String.ofList (List.replicate width ' ')

def padRow (width : Nat) (line : String) : String :=
  line ++ blankRow (width - line.length)

/-- The lines of a text as rows of a grid of this size, with blank rows where lines are missing. -/
def paddedRows (width height : Nat) (s : String) : List String :=
  let rows := (Text.splitLines s).map (padRow width)
  rows ++ List.replicate (height - rows.length) (blankRow width)

/-- The rows of a canvas as far as they are written in a trimmed text. -/
def trimmedRows (c : Canvas) : List String :=
  Text.dropTrailing (· == "") (c.rows.map trimRow)

variable {c : Canvas} {row line : String} {width : Nat}

theorem trimmedText_eq (c : Canvas) : trimmedText c = Text.joinLines (trimmedRows c) :=
  rfl

theorem padRow_empty (width : Nat) : padRow width "" = blankRow width := by
  rw [padRow, String.empty_append]
  rfl

theorem padRow_trimRow (row : String) : padRow row.length (trimRow row) = row := by
  apply String.toList_injective
  rw [padRow, blankRow, trimRow, String.toList_append, String.toList_ofList, String.toList_ofList,
    String.length_ofList, ← String.length_toList]
  exact Text.dropTrailing_append_replicate ' ' row.toList

/-- Padded to the size of the canvas, the written rows are the rows. -/
theorem padded_trimmedRows (c : Canvas) : (trimmedRows c).map (padRow c.width) ++
    List.replicate (c.height - (trimmedRows c).length) (blankRow c.width) = c.rows := by
  have rows : trimmedRows c ++ List.replicate (c.height - (trimmedRows c).length) "" =
      c.rows.map trimRow := by
    have whole := Text.dropTrailing_append_replicate "" (c.rows.map trimRow)
    rwa [List.length_map, Canvas.length_rows] at whole
  calc
    _ = (trimmedRows c ++ List.replicate (c.height - (trimmedRows c).length) "").map
          (padRow c.width) := by
      rw [List.map_append, List.map_replicate, padRow_empty]
    _ = c.rows.map (padRow c.width ∘ trimRow) := by rw [rows, List.map_map]
    _ = c.rows := by
      refine (List.map_congr_left fun row mem => ?_).trans (List.map_id _)
      rw [Function.comp, ← Canvas.length_of_mem_rows mem]
      exact padRow_trimRow row

theorem exists_row_of_mem (mem : line ∈ trimmedRows c) : ∃ row ∈ c.rows, trimRow row = line := by
  have front : trimmedRows c <+: c.rows.map trimRow := List.rdropWhile_prefix _ _
  exact List.mem_map.1 (front.mem mem)

theorem getLast?_trimRow (row : String) : (trimRow row).toList.getLast? ≠ some ' ' := by
  rw [trimRow, String.toList_ofList]
  intro blank
  have visible := Text.getLast?_dropTrailing _ _ _ blank
  simp at visible

theorem getLast?_trimmedRows (c : Canvas) : (trimmedRows c).getLast? ≠ some "" := by
  intro empty
  have visible := Text.getLast?_dropTrailing _ _ _ empty
  simp at visible

/-- The lines of the text are the written rows. Where no row is written, the text has one line
nevertheless, and this is empty. -/
theorem splitLines_trimmedText (cells : ∀ x y, c.cell x y ≠ some '\n') :
    Text.splitLines (trimmedText c) = trimmedRows c ∨
      trimmedRows c = [] ∧ Text.splitLines (trimmedText c) = [""] := by
  by_cases none : trimmedRows c = []
  · rw [trimmedText_eq, none]
    exact .inr ⟨rfl, by decide⟩
  · refine .inl (Text.splitLines_joinLines none fun line mem feed => ?_)
    obtain ⟨row, part, rfl⟩ := exists_row_of_mem mem
    rw [trimRow, String.toList_ofList] at feed
    exact Canvas.no_feed_of_mem_rows cells part ((List.rdropWhile_prefix _ _).mem feed)

theorem paddedRows_trimmedText (some_row : 0 < c.height) (cells : ∀ x y, c.cell x y ≠ some '\n') :
    paddedRows c.width c.height (trimmedText c) = c.rows := by
  rw [← padded_trimmedRows c, paddedRows, List.length_map]
  obtain lines | ⟨none, lines⟩ := splitLines_trimmedText cells
  · rw [lines]
  · -- The one empty line takes the place of the first blank row.
    have others : c.height = c.height - 1 + 1 := by omega
    rw [lines, none, List.map_nil, List.map_singleton, padRow_empty, List.length_singleton,
      List.length_nil, Nat.sub_zero, List.nil_append, List.singleton_append]
    conv_rhs => rw [others, List.replicate_succ]

/-- A trimmed text ends its lines and itself without a blank, and it has lost nothing but blanks:
padded to the size of the canvas its lines are the rows. So it tells the canvases of one size apart
that the full text tells apart. -/
theorem trimming_loses_blanks (some_row : 0 < c.height) (cells : ∀ x y, c.cell x y ≠ some '\n') :
    (∀ line ∈ Text.splitLines (trimmedText c), line.toList.getLast? ≠ some ' ') ∧
    (trimmedText c = "" ∨ (Text.splitLines (trimmedText c)).getLast? ≠ some "") ∧
    paddedRows c.width c.height (trimmedText c) = c.rows ∧
    ∀ d : Canvas, d.width = c.width → d.height = c.height →
      (∀ x y, d.cell x y ≠ some '\n') → trimmedText d = trimmedText c → text d = text c := by
  refine ⟨?_, ?_, paddedRows_trimmedText some_row cells, ?_⟩
  · intro line mem
    obtain lines | ⟨_, lines⟩ := splitLines_trimmedText cells
    · rw [lines] at mem
      obtain ⟨row, _, rfl⟩ := exists_row_of_mem mem
      exact getLast?_trimRow row
    · rw [lines] at mem
      rw [List.mem_singleton.1 mem]
      exact nofun
  · obtain lines | ⟨none, _⟩ := splitLines_trimmedText cells
    · right
      rw [lines]
      exact getLast?_trimmedRows c
    · left
      rw [trimmedText_eq, none]
      rfl
  · intro d width height cells' same
    have rows := paddedRows_trimmedText (height ▸ some_row) cells'
    rw [same, width, height, paddedRows_trimmedText some_row cells] at rows
    rw [text, text, rows]

/-- An empty row between others stays, and so does a space that was drawn in front of a letter. -/
theorem trimming_loses_blanks_inside :
    ∃ c : Canvas, c.width = 3 ∧ c.height = 4 ∧ trimmedText c = "a\n\n b" ∧
      paddedRows 3 4 "a\n\n b" = ["a  ", "   ", " b ", "   "] ∧
      c.rows = ["a  ", "   ", " b ", "   "] := by
  let cells : Array (Option Char) := #[some 'a', some ' ', none, none, none, none,
    some ' ', some 'b', some ' ', none, none, none]
  have solid : ∀ cell ∈ cells, cell ≠ some '\n' := by decide
  have rows : (⟨3, 4, cells, rfl⟩ : Canvas).rows = ["a  ", "   ", " b ", "   "] := by decide
  have trimmed : trimmedText ⟨3, 4, cells, rfl⟩ = "a\n\n b" := by decide
  have padded := (trimming_loses_blanks (c := ⟨3, 4, cells, rfl⟩) (by decide)
    fun x y => Canvas.cell_ne_of_forall_cells solid).2.2.1
  rw [trimmed, rows] at padded
  exact ⟨_, rfl, rfl, trimmed, padded, rows⟩

end Document

end SequenceChart
