import SequenceChart.Proofs.TextDocument

/-!
What normalising does to texts that a source can carry. Pieces between markers and lines without
white space at their ends are parts of the text, so they hold nothing that the text does not. The
markers are cut out in one pass from the left, and what this leaves forms no new ones.
-/

namespace SequenceChart.Body

variable {raw line : String} {cs piece : List Char} {pieces : List (List Char)}

/-! Pieces between markers. -/

theorem mem_modifyHead {f : List Char → List Char} (part : piece ∈ pieces.modifyHead f) :
    (∃ first ∈ pieces.head?, piece = f first) ∨ piece ∈ pieces := by
  cases pieces with
  | nil => contradiction
  | cons first others =>
      cases List.mem_cons.1 part with
      | inl same => exact .inl ⟨first, rfl, same⟩
      | inr later => exact .inr (List.mem_cons_of_mem first later)

theorem head?_splitMarkers_isPrefix (cs : List Char) :
    ∀ piece ∈ (splitMarkers cs).head?, piece <+: cs := by
  fun_induction splitMarkers cs with
  | case1 | case2 => simp
  | case3 c cs _ ih =>
      rw [List.head?_modifyHead]
      intro piece front
      obtain ⟨rest, here, rfl⟩ := Option.map_eq_some_iff.1 front
      exact (List.prefix_cons_inj c).2 (ih rest here)

theorem infix_of_mem_splitMarkers (part : piece ∈ splitMarkers cs) : piece <:+: cs := by
  fun_induction splitMarkers cs generalizing piece with
  | case1 =>
      cases List.mem_singleton.1 part
      exact List.nil_infix
  | case2 cs ih =>
      cases List.mem_cons.1 part with
      | inl empty => exact empty ▸ List.nil_infix
      | inr later => exact List.infix_cons (List.infix_cons (ih later))
  | case3 c cs _ ih =>
      cases mem_modifyHead part with
      | inl front =>
          obtain ⟨first, here, rfl⟩ := front
          have behind := head?_splitMarkers_isPrefix cs first here
          exact ((List.prefix_cons_inj c).2 behind).isInfix
      | inr later => exact List.infix_cons (ih later)

/-- A backslash that stays in a piece has its right neighbour in the text or none. -/
theorem no_marker_of_mem_splitMarkers (part : piece ∈ splitMarkers cs) :
    ¬ ['\\', 'n'] <:+: piece := by
  fun_induction splitMarkers cs generalizing piece with
  | case1 =>
      cases List.mem_singleton.1 part
      simp
  | case2 cs ih =>
      cases List.mem_cons.1 part with
      | inl empty => simp [empty]
      | inr later => exact ih later
  | case3 c cs no_marker ih =>
      cases mem_modifyHead part with
      | inr later => exact ih later
      | inl front =>
          obtain ⟨first, here, rfl⟩ := front
          intro marker
          cases List.infix_cons_iff.1 marker with
          | inr inside => exact ih (List.mem_of_mem_head? here) inside
          | inl start =>
              obtain ⟨rfl, next⟩ := List.cons_prefix_cons.1 start
              obtain ⟨rest, same⟩ := next.trans (head?_splitMarkers_isPrefix cs first here)
              exact no_marker rest rfl same.symm

/-! Lines. -/

theorem exists_piece_of_mem_lines (part : line ∈ lines raw) :
    ∃ piece ∈ splitMarkers raw.toList, line = Text.trim (String.ofList piece) := by
  rw [lines, dropEmptyEdges] at part
  obtain ⟨piece, mem, same⟩ := List.mem_map.1 ((Text.strip_isInfix _ _).mem part)
  exact ⟨piece, mem, same.symm⟩

theorem trim_piece_isInfix (piece : List Char) :
    (Text.trim (String.ofList piece)).toList <:+: piece := by
  have inside := Text.trim_isInfix (String.ofList piece)
  rwa [String.toList_ofList] at inside

theorem infix_of_mem_lines (part : line ∈ lines raw) : line.toList <:+: raw.toList := by
  obtain ⟨piece, mem, rfl⟩ := exists_piece_of_mem_lines part
  exact (trim_piece_isInfix piece).trans (infix_of_mem_splitMarkers mem)

/-- Whatever has been normalised, its lines need no further normalising. -/
theorem settled_lines (raw : String) : Settled (lines raw) where
  trimmed line part := by
    obtain ⟨piece, _, rfl⟩ := exists_piece_of_mem_lines part
    exact Text.trim_trim _
  no_marker line part marker := by
    obtain ⟨piece, mem, rfl⟩ := exists_piece_of_mem_lines part
    exact no_marker_of_mem_splitMarkers mem (marker.trans (trim_piece_isInfix piece))
  first empty := by
    have visible := Text.head?_strip _ _ _ empty
    simp at visible
  last empty := by
    have visible := Text.getLast?_dropTrailing _ _ _ empty
    simp at visible

theorem normalLine_of_mem_lines (plain : Plain raw.toList) (part : line ∈ lines raw) :
    NormalLine line where
  trimmed := (settled_lines raw).trimmed line part
  no_mark c mem := by
    have other := plain.no_mark c ((infix_of_mem_lines part).mem mem)
    simp only [List.mem_cons, not_or] at other ⊢
    exact ⟨other.1, other.2.1, other.2.2.1, other.2.2.2.2⟩
  no_comment slashes := plain.no_comment (slashes.trans (infix_of_mem_lines part))
  no_marker := (settled_lines raw).no_marker line part

/-- The line feeds of a normalised text are those between its lines. -/
theorem splitLines_normalize (no_feed : '\n' ∉ raw.toList) (some_line : lines raw ≠ []) :
    Text.splitLines (normalize raw) = lines raw :=
  Text.splitLines_joinLines some_line fun _ part feed =>
    no_feed ((infix_of_mem_lines part).mem feed)

theorem wellFormed_normalize (plain : Plain raw.toList) : WellFormed (normalize raw) := by
  by_cases none : lines raw = []
  · left
    rw [normalize, none]
    rfl
  · right
    have no_feed : '\n' ∉ raw.toList := fun feed => by simpa using plain.no_mark '\n' feed
    have split := splitLines_normalize no_feed none
    constructor
    · rw [split]
      exact fun line => normalLine_of_mem_lines plain
    · rw [split]
      exact (settled_lines raw).first
    · rw [split]
      exact (settled_lines raw).last

end SequenceChart.Body
