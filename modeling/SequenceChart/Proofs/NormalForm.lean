import Mathlib.Data.List.Infix
import SequenceChart.Program.Body
import SequenceChart.Proofs.Trimming

/-!
Texts in normal form, and how they are written. The lines of such a text are trimmed, neither the
first nor the last one is empty, and none holds anything that a source line cannot carry. Written
with markers in place of its line feeds, such a text is normalised to itself.
-/

namespace SequenceChart

/-- Two characters that meet in two texts are next to each other in one, or meet at the seam. -/
theorem pair_infix_append {a b : Char} {xs ys : List Char} (meet : [a, b] <:+: xs ++ ys) :
    [a, b] <:+: xs ∨ [a, b] <:+: ys ∨ xs.getLast? = some a ∧ ys.head? = some b := by
  induction xs with
  | nil => exact .inr (.inl meet)
  | cons x xs ih =>
      cases List.infix_cons_iff.1 meet with
      | inr later =>
          refine (ih later).imp List.infix_cons (Or.imp_right fun seam => ⟨?_, seam.2⟩)
          rw [List.getLast?_cons, seam.1]
          rfl
      | inl here =>
          obtain ⟨rfl, next⟩ := List.cons_prefix_cons.1 here
          cases xs with
          | nil => exact .inr (.inr ⟨rfl, List.singleton_prefix_iff_head?_eq_some.1 next⟩)
          | cons x xs =>
              obtain ⟨rfl, _⟩ := List.cons_prefix_cons.1 next
              exact .inl ⟨[], xs, rfl⟩

/-- Where two characters meet around a third one, they meet on one side of it. -/
theorem infix_of_seam {a b c : Char} {xs ys : List Char} (meet : [a, b] <:+: xs ++ c :: ys)
    (first : c ≠ a) (second : c ≠ b) : [a, b] <:+: xs ∨ [a, b] <:+: ys := by
  obtain left | right | ⟨_, behind⟩ := pair_infix_append meet
  · exact .inl left
  · cases List.infix_cons_iff.1 right with
    | inl here => exact (first (List.cons_prefix_cons.1 here).1.symm).elim
    | inr later => exact .inr later
  · exact (second (Option.some.inj behind)).elim

namespace Body

/-! Texts in normal form. -/

structure NormalLine (line : String) : Prop where
  trimmed : Text.trim line = line
  no_mark : ∀ c ∈ line.toList, c ∉ [';', '\r', '\t']
  no_comment : ¬ ['/', '/'] <:+: line.toList
  no_marker : ¬ ['\\', 'n'] <:+: line.toList

instance (line : String) : Decidable (NormalLine line) :=
  decidable_of_iff (Text.trim line = line ∧ line.toList.all (· ∉ [';', '\r', '\t']) = true ∧
      ¬ ['/', '/'] <:+: line.toList ∧ ¬ ['\\', 'n'] <:+: line.toList)
    ⟨fun h => ⟨h.1, by simpa using h.2.1, h.2.2.1, h.2.2.2⟩,
      fun h => ⟨h.trimmed, by simpa using h.no_mark, h.no_comment, h.no_marker⟩⟩

/-- A text with lines in normal form, the first and the last of which are not empty. -/
structure Normal (text : String) : Prop where
  line : ∀ line ∈ Text.splitLines text, NormalLine line
  first : (Text.splitLines text).head? ≠ some ""
  last : (Text.splitLines text).getLast? ≠ some ""

instance (text : String) : Decidable (Normal text) :=
  decidable_of_iff ((∀ line ∈ Text.splitLines text, NormalLine line) ∧
      (Text.splitLines text).head? ≠ some "" ∧ (Text.splitLines text).getLast? ≠ some "")
    ⟨fun h => ⟨h.1, h.2.1, h.2.2⟩, fun h => ⟨h.line, h.first, h.last⟩⟩

/-- Texts that can be read from a source. The empty text has no line at all. -/
def WellFormed (text : String) : Prop :=
  text = "" ∨ Normal text

instance (text : String) : Decidable (WellFormed text) :=
  inferInstanceAs (Decidable (text = "" ∨ Normal text))

/-- The lines of a text with markers between them, as a source gives them. -/
def written (text : String) : String :=
  lineBreakMarker.intercalate (Text.splitLines text)

/-! Markers between lines are found again. -/

section

variable {line rest : List Char} {lines : List (List Char)}

theorem splitMarkers_cons {c : Char} {cs : List Char} (no_marker : ¬ ['\\', 'n'] <+: c :: cs) :
    splitMarkers (c :: cs) = (splitMarkers cs).modifyHead (c :: ·) := by
  rw [splitMarkers]
  intro cs' slash next
  rw [slash, next] at no_marker
  exact no_marker ⟨cs', rfl⟩

theorem splitMarkers_line (no_marker : ¬ ['\\', 'n'] <:+: line) : splitMarkers line = [line] := by
  induction line with
  | nil => rfl
  | cons c line ih =>
      rw [splitMarkers_cons fun here => no_marker here.isInfix,
        ih fun inside => no_marker (List.infix_cons inside)]
      rfl

theorem splitMarkers_ne_nil (cs : List Char) : splitMarkers cs ≠ [] := by
  fun_induction splitMarkers cs with
  | case1 | case2 => exact List.cons_ne_nil _ _
  | case3 c cs _ ih => exact mt List.modifyHead_eq_nil_iff.1 ih

/-- The backslash of a marker forms no marker with the characters before it. -/
theorem splitMarkers_append (cs rest : List Char) :
    splitMarkers (cs ++ '\\' :: 'n' :: rest) = splitMarkers cs ++ splitMarkers rest := by
  fun_induction splitMarkers cs with
  | case1 => rfl
  | case2 cs ih => exact congrArg ([] :: ·) ih
  | case3 c cs no_marker ih =>
      rw [List.cons_append, splitMarkers_cons, ih]
      · cases pieces : splitMarkers cs with
        | nil => exact (splitMarkers_ne_nil cs pieces).elim
        | cons first others => rfl
      · intro here
        obtain ⟨rfl, next⟩ := List.cons_prefix_cons.1 here
        cases cs with
        | nil => exact absurd (List.cons_prefix_cons.1 next).1 (by decide)
        | cons c cs =>
            obtain ⟨rfl, _⟩ := List.cons_prefix_cons.1 next
            exact no_marker cs rfl rfl

theorem splitMarkers_intercalate (ne_nil : lines ≠ [])
    (no_marker : ∀ line ∈ lines, ¬ ['\\', 'n'] <:+: line) :
    splitMarkers (['\\', 'n'].intercalate lines) = lines := by
  induction lines with
  | nil => contradiction
  | cons line lines ih =>
      obtain ⟨here, others⟩ := List.forall_mem_cons.1 no_marker
      cases lines with
      | nil => rw [List.intercalate_singleton, splitMarkers_line here]
      | cons next lines =>
          rw [List.intercalate_cons_cons, List.append_assoc]
          refine (splitMarkers_append line _).trans ?_
          rw [splitMarkers_line here]
          exact congrArg (line :: ·) (ih nofun others)

/-- Markers put no two slashes next to each other. -/
theorem no_comment_intercalate (no_comment : ∀ line ∈ lines, ¬ ['/', '/'] <:+: line) :
    ¬ ['/', '/'] <:+: ['\\', 'n'].intercalate lines := by
  induction lines with
  | nil => simp
  | cons line lines ih =>
      obtain ⟨here, others⟩ := List.forall_mem_cons.1 no_comment
      cases lines with
      | nil => rwa [List.intercalate_singleton]
      | cons next lines =>
          rw [List.intercalate_cons_cons, List.append_assoc]
          intro meet
          cases infix_of_seam meet (by decide) (by decide) with
          | inl inside => exact here inside
          | inr inside =>
              cases List.infix_cons_iff.1 inside with
              | inl marker => exact absurd (List.cons_prefix_cons.1 marker).1 (by decide)
              | inr inside => exact ih others inside

theorem mem_intercalate {sep : List Char} {c : Char} (mem : c ∈ sep.intercalate lines) :
    c ∈ sep ∨ ∃ line ∈ lines, c ∈ line := by
  induction lines with
  | nil => contradiction
  | cons line lines ih =>
      cases lines with
      | nil =>
          rw [List.intercalate_singleton] at mem
          exact .inr ⟨line, List.mem_cons_self, mem⟩
      | cons next lines =>
          rw [List.intercalate_cons_cons] at mem
          cases List.mem_append.1 mem with
          | inl front =>
              cases List.mem_append.1 front with
              | inl here => exact .inr ⟨line, List.mem_cons_self, here⟩
              | inr marker => exact .inl marker
          | inr back =>
              refine (ih back).imp_right fun inside => ?_
              obtain ⟨line, part, here⟩ := inside
              exact ⟨line, List.mem_cons_of_mem _ part, here⟩

end

/-! Writing and normalising. -/

theorem toList_written (text : String) :
    (written text).toList =
      ['\\', 'n'].intercalate ((Text.splitLines text).map String.toList) := by
  rw [written, String.toList_intercalate]
  rfl

theorem dropEmptyEdges_eq {lines : List String} (first : lines.head? ≠ some "")
    (last : lines.getLast? ≠ some "") : dropEmptyEdges lines = lines := by
  refine Text.strip_eq_self (fun line edge => ?_) (fun line edge => ?_)
  · exact beq_false_of_ne fun empty => first (empty ▸ edge)
  · exact beq_false_of_ne fun empty => last (empty ▸ edge)

/-- Lines that normalising leaves as they are. -/
structure Settled (lines : List String) : Prop where
  trimmed : ∀ line ∈ lines, Text.trim line = line
  no_marker : ∀ line ∈ lines, ¬ ['\\', 'n'] <:+: line.toList
  first : lines.head? ≠ some ""
  last : lines.getLast? ≠ some ""

theorem Normal.settled {text : String} (normal : Normal text) : Settled (Text.splitLines text) where
  trimmed line part := (normal.line line part).trimmed
  no_marker line part := (normal.line line part).no_marker
  first := normal.first
  last := normal.last

theorem lines_intercalate {ls : List String} (some_line : ls ≠ []) (settled : Settled ls) :
    lines (lineBreakMarker.intercalate ls) = ls := by
  have pieces : splitMarkers (lineBreakMarker.intercalate ls).toList = ls.map String.toList := by
    rw [String.toList_intercalate]
    refine splitMarkers_intercalate (mt List.map_eq_nil_iff.1 some_line) ?_
    rw [List.forall_mem_map]
    exact settled.no_marker
  have trimmed : (ls.map String.toList).map (fun cs => Text.trim (String.ofList cs)) = ls := by
    rw [List.map_map]
    refine (List.map_congr_left fun line part => ?_).trans (List.map_id _)
    rw [Function.comp, String.ofList_toList]
    exact settled.trimmed line part
  rw [lines, pieces, trimmed, dropEmptyEdges_eq settled.first settled.last]

theorem normalize_written {text : String} (wellFormed : WellFormed text) :
    normalize (written text) = text := by
  cases wellFormed with
  | inl empty =>
      rw [empty]
      decide
  | inr normal =>
      have some_line : Text.splitLines text ≠ [] := by simp [Text.splitLines]
      rw [normalize, written, lines_intercalate some_line normal.settled, Text.joinLines_splitLines]

/-- Characters that can stand in a text of the source and stand for themselves there. -/
structure Plain (cs : List Char) : Prop where
  no_mark : ∀ c ∈ cs, c ∉ [';', '\r', '\t', '\n']
  no_comment : ¬ ['/', '/'] <:+: cs

theorem plain_written {text : String} (wellFormed : WellFormed text) :
    Plain (written text).toList := by
  cases wellFormed with
  | inl empty =>
      have nothing : (written text).toList = [] := by
        rw [empty]
        decide
      rw [nothing]
      exact ⟨nofun, by decide⟩
  | inr normal =>
      rw [toList_written]
      constructor
      · intro c mem
        have markers : ∀ c ∈ ['\\', 'n'], c ∉ [';', '\r', '\t', '\n'] := by simp
        cases mem_intercalate mem with
        | inl marker => exact markers c marker
        | inr inside =>
            obtain ⟨_, piece, here⟩ := inside
            obtain ⟨line, part, rfl⟩ := List.mem_map.1 piece
            have no_mark := (normal.line line part).no_mark c here
            have no_feed := (Text.mem_of_mem_splitLines part here).2
            simpa [no_feed] using no_mark
      · refine no_comment_intercalate fun piece mem => ?_
        obtain ⟨line, part, rfl⟩ := List.mem_map.1 mem
        exact (normal.line line part).no_comment

end Body

end SequenceChart
