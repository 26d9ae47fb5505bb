import SequenceChart.Proofs.JsonWriting
import SequenceChart.Proofs.TextDocument

/-!
A canvas written as JSON. The writer of documents puts things on lines of their own and escapes no
more than has to be escaped. Written so, a document is read back as an object with the dimensions of
the canvas and its rows, whatever characters the cells hold.
-/

namespace SequenceChart

namespace Document

/-! The writer of documents. -/

/-- Four hexadecimal digits are enough for a control character. -/
theorem exists_hexCode : ∀ n < 0x20, ∃ a b c d : Char,
    (Nat.toDigits 16 n).leftpad 4 '0' = [a, b, c, d] ∧ Json.Reader.hexCode? a b c d = some n := by
  intro n small
  refine ⟨'0', '0', Nat.digitChar (n / 16), Nat.digitChar (n % 16), ?_⟩
  revert n
  decide

theorem standsFor_jsonChar (c : Char) : Json.StandsFor (jsonChar c) c := by
  unfold jsonChar
  split
  case h_8 quote backslash _ _ _ _ _ =>
    by_cases control : c.toNat < 0x20
    · obtain ⟨a, b, c', d, written, read⟩ := exists_hexCode c.toNat control
      rw [if_pos control, written]
      exact .coded (.inr (.inr control)) read
    · rw [if_neg control]
      exact .plain (not_or.2 ⟨quote, not_or.2 ⟨backslash, control⟩⟩)
  all_goals exact .named (by decide) rfl

theorem pretty_jsonWriter : jsonWriter.Pretty where
  number _ := rfl
  string s := by
    refine ⟨s.toList.map jsonChar, ?_, ?_⟩
    · exact List.forall₂_map_left_iff.2 (List.forall₂_same.2 fun c _ => standsFor_jsonChar c)
    · rw [← List.flatMap_def]
      rfl
  list_nil _ := rfl
  list level elements some_element := by
    cases elements with
    | nil => contradiction
    | cons _ _ => rfl
  object level members some_member := by
    cases members with
    | nil => contradiction
    | cons _ _ => rfl

end Document

/-! Documents. -/

namespace JsonWriter

open Json.Reader

variable {w : JsonWriter}

/-- The members of a document, each as it is written and as it is read. -/
def members (w : JsonWriter) (c : Canvas) : List (String × String × Json) :=
  [("width", w.number c.width, .number c.width 0),
    ("height", w.number c.height, .number c.height 0),
    ("rows", w.list 1 (c.rows.map w.string), .array (c.rows.map .string))]

theorem document_eq (w : JsonWriter) (c : Canvas) :
    w.document c = w.object 0 ((w.members c).map fun p => (p.1, p.2.1)) :=
  rfl

theorem length_document (pretty : w.Pretty) (c : Canvas) :
    c.rows.length + 2 < (w.document c).length := by
  have rows := length_le_list pretty 1 (c.rows.map w.string)
  have member : ("rows", w.list 1 (c.rows.map w.string)) ∈
      (w.members c).map fun p => (p.1, p.2.1) := by simp [members]
  rw [List.length_map] at rows
  exact Nat.lt_of_le_of_lt rows (length_lt_object pretty member)

theorem reads_rows (pretty : w.Pretty) {rows : List String} {n : Nat} (room : rows.length ≤ n + 1) :
    Reads (value (n + 2)) (w.list 1 (rows.map w.string)).toList (.array (rows.map .string)) := by
  have reads : ∀ p ∈ rows.map fun row => (w.string row, Json.string row),
      Reads (value (n + 1)) p.1.toList p.2 :=
    List.forall_mem_map.2 fun row _ => reads_string pretty n row
  have list := reads_list pretty reads (by rwa [List.length_map]) 1
  rw [List.map_map, List.map_map] at list
  exact list

theorem reads_members (pretty : w.Pretty) {c : Canvas} {n : Nat} (room : c.rows.length ≤ n + 1) :
    ∀ p ∈ w.members c, Reads (value (n + 2)) p.2.1.toList p.2.2 := by
  simp only [members, List.forall_mem_cons]
  exact ⟨reads_number pretty _ _, reads_number pretty _ _, reads_rows pretty room, nofun⟩

theorem read_document (pretty : w.Pretty) (c : Canvas) :
    Json.read? (w.document c) = some (.object ((w.members c).map fun p => (p.1, p.2.2))) := by
  have long := length_document pretty c
  obtain ⟨n, length⟩ : ∃ n, (w.document c).length = n + 3 := ⟨(w.document c).length - 3, by omega⟩
  have reads : ∀ p ∈ w.members c, Reads (value (n + 3)) p.2.1.toList p.2.2 :=
    reads_members pretty (by omega)
  have some_member : w.members c ≠ [] := List.cons_ne_nil _ _
  have room : (w.members c).length ≤ n + 3 := Nat.le_add_left 3 n
  have whole := reads_object pretty some_member reads room 0 [] nofun
  rw [← document_eq, List.append_nil] at whole
  rw [Json.read?, length, whole]
  rfl

/-- Canvases with the same document have the same size and rows. -/
theorem same_of_document_eq (pretty : w.Pretty) {c d : Canvas}
    (same : w.document d = w.document c) :
    d.width = c.width ∧ d.height = c.height ∧ d.rows = c.rows := by
  have read := read_document pretty d
  rw [same, read_document pretty c] at read
  simpa [members, Int.ofNat_inj, List.map_inj_right fun _ _ => Json.string.inj, eq_comm] using read

end JsonWriter

namespace Document

/-- Read as JSON, a document is an object with the dimensions of the canvas and its rows, whatever
characters the cells hold. So canvases with the same document have the same size and rows. -/
theorem json_is_grid {w : JsonWriter} (pretty : w.Pretty) (c : Canvas) :
    Json.read? (w.document c) = some (.object [("width", .number c.width 0),
      ("height", .number c.height 0), ("rows", .array (c.rows.map .string))]) ∧
    c.rows.length = c.height ∧ (∀ row ∈ c.rows, row.length = c.width) ∧
    ∀ d : Canvas, w.document d = w.document c →
      d.width = c.width ∧ d.height = c.height ∧ d.rows = c.rows :=
  ⟨JsonWriter.read_document pretty c, c.length_rows, fun _ => Canvas.length_of_mem_rows,
    fun _ => JsonWriter.same_of_document_eq pretty⟩

/-- The three kinds of characters that are escaped. -/
theorem json_is_grid_of_escapes : jsonWriter.Pretty ∧
    Json.read? (json ⟨3, 1, #[some '"', some '\\', some '\x01'], rfl⟩) = some (.object
      [("width", .number 3 0), ("height", .number 1 0), ("rows", .array [.string "\"\\\x01"])]) :=
  ⟨pretty_jsonWriter, (json_is_grid pretty_jsonWriter _).1⟩

theorem read_json (c : Canvas) : Json.read? (json c) = some (.object [("width", .number c.width 0),
    ("height", .number c.height 0), ("rows", .array (c.rows.map .string))]) :=
  JsonWriter.read_document pretty_jsonWriter c

theorem same_of_json_eq {c d : Canvas} (same : json d = json c) :
    d.width = c.width ∧ d.height = c.height ∧ d.rows = c.rows :=
  JsonWriter.same_of_document_eq pretty_jsonWriter same

end Document

end SequenceChart
