import SequenceChart.Proofs.Normalising

/-!
Which lines normalising leaves out. The lines that it starts from are the trimmed pieces between the
markers; it leaves out the empty ones at the ends and keeps everything between two that are not
empty. So white space and markers around a text make no difference, and a normalised text is
normalised.
-/

namespace SequenceChart.Body

/-- The lines of a text before anything is left out. -/
def cutLines (raw : String) : List String :=
  (splitMarkers raw.toList).map fun cs => Text.trim (String.ofList cs)

/-- Made of white space and complete markers only. -/
inductive Blank : List Char → Prop
  | nil : Blank []
  | white {c : Char} {cs : List Char} : Text.isWhiteSpace c = true → Blank cs → Blank (c :: cs)
  | marker {cs : List Char} : Blank cs → Blank ('\\' :: 'n' :: cs)

variable {raw : String} {cs piece : List Char}

theorem lines_eq (raw : String) : lines raw = dropEmptyEdges (cutLines raw) :=
  rfl

theorem cutLines_append (front back : String) :
    cutLines (front ++ lineBreakMarker ++ back) = cutLines front ++ cutLines back := by
  have marked : (front ++ lineBreakMarker ++ back).toList =
      front.toList ++ '\\' :: 'n' :: back.toList := by
    rw [String.toList_append, String.toList_append, List.append_assoc]
    rfl
  rw [cutLines, marked, splitMarkers_append, List.map_append]
  rfl

/-! Blank texts. -/

theorem Blank.white_of_mem (blank : Blank cs) :
    ∀ piece ∈ splitMarkers cs, ∀ c ∈ piece, Text.isWhiteSpace c = true := by
  induction blank with
  | nil => simp [splitMarkers]
  | marker _ ih =>
      intro piece part
      cases List.mem_cons.1 part with
      | inl empty => simp [empty]
      | inr later => exact ih piece later
  | white white _ ih =>
      rename_i c cs _
      -- White space is no backslash, so it starts no marker.
      have no_marker : ¬ ['\\', 'n'] <+: c :: cs := by
        intro here
        obtain ⟨rfl, _⟩ := List.cons_prefix_cons.1 here
        exact absurd white (by decide)
      rw [splitMarkers_cons no_marker]
      intro piece part
      cases mem_modifyHead part with
      | inr later => exact ih piece later
      | inl front =>
          obtain ⟨first, here, rfl⟩ := front
          exact List.forall_mem_cons.2 ⟨white, ih first (List.mem_of_mem_head? here)⟩

theorem trim_of_white (white : ∀ c ∈ cs, Text.isWhiteSpace c = true) :
    Text.trim (String.ofList cs) = "" := by
  rw [Text.trim, String.toList_ofList, List.dropWhile_eq_nil_iff.2 white]
  rfl

theorem Blank.cutLines_eq_empty {blank : String} (edge : Blank blank.toList) :
    ∀ line ∈ cutLines blank, (line == "") = true := by
  rw [cutLines, List.forall_mem_map]
  intro piece part
  rw [trim_of_white (edge.white_of_mem piece part)]
  rfl

/-! What is left out. -/

theorem normalize_blank_append {blank : String} (edge : Blank blank.toList) (raw : String) :
    normalize (blank ++ lineBreakMarker ++ raw) = normalize raw := by
  rw [normalize, normalize, lines_eq, lines_eq, cutLines_append, dropEmptyEdges, dropEmptyEdges,
    List.dropWhile_append_of_pos edge.cutLines_eq_empty]

theorem normalize_append_blank {blank : String} (edge : Blank blank.toList) (raw : String) :
    normalize (raw ++ lineBreakMarker ++ blank) = normalize raw := by
  rw [normalize, normalize, lines_eq, lines_eq, cutLines_append, dropEmptyEdges, dropEmptyEdges,
    Text.strip_append _ edge.cutLines_eq_empty]

theorem normalize_written_normalize (no_feed : '\n' ∉ raw.toList) :
    normalize (written (normalize raw)) = normalize raw := by
  by_cases none : lines raw = []
  · have nothing : normalize raw = "" := by
      rw [normalize, none]
      rfl
    rw [nothing]
    decide
  · rw [written, splitLines_normalize no_feed none, normalize,
      lines_intercalate none (settled_lines raw), normalize]

/-- A normalised text is normalised, and it does not show what white space and markers were around
it. Between two lines that are not empty every line is kept, the empty ones as well. -/
theorem normalize_drops_edges (raw : String) :
    ('\n' ∉ raw.toList → normalize (written (normalize raw)) = normalize raw) ∧
    (∀ blank : String, Blank blank.toList →
      normalize (blank ++ lineBreakMarker ++ raw) = normalize raw ∧
      normalize (raw ++ lineBreakMarker ++ blank) = normalize raw) ∧
    ∀ before line behind, cutLines raw = before ++ line :: behind →
      (∃ l ∈ before, l ≠ "") → (∃ l ∈ behind, l ≠ "") →
      normalize raw = Text.joinLines
        (before.dropWhile (· == "") ++ line :: Text.dropTrailing (· == "") behind) := by
  refine ⟨normalize_written_normalize, ?_, ?_⟩
  · intro blank edge
    exact ⟨normalize_blank_append edge raw, normalize_append_blank edge raw⟩
  · intro before line behind cut visible visible'
    rw [normalize, lines_eq, cut, dropEmptyEdges,
      Text.strip_between (by simpa using visible) (by simpa using visible')]

/-- White space of every kind is trimmed, and a backslash in front of a marker is kept. -/
example : normalize " \\n\u3000a\\\\n\\n b \\n " = "a\\\n\nb" := by
  decide

end SequenceChart.Body
