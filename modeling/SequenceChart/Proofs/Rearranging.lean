import Mathlib.Data.List.Forall2
import Mathlib.Data.List.Perm.Basic
import SequenceChart.Proofs.Bands
import SequenceChart.Proofs.Spacing

/-!
The places of the columns do not depend on the order of the statements, nor on which way the arrows
point, once all participants are declared in front. What a statement demands of the columns is the
same for a message and its reply, and all demands go into maxima and one sum.
-/

namespace SequenceChart

namespace Statement

/-- A message the other way around. No other statement changes. -/
def turned : Statement → Statement
  | .message sender receiver text => .message receiver sender text
  | s => s

theorem mem_mentions_turned {s : Statement} {name : String} :
    name ∈ s.turned.mentions ↔ name ∈ s.mentions := by
  cases s with
  | declare _ | note _ _ _ | space _ => exact Iff.rfl
  | message sender receiver text => exact (List.Perm.swap sender receiver []).mem_iff

theorem rows_turned (s : Statement) : s.turned.rows = s.rows := by
  cases s with
  | declare _ | note _ _ _ | space _ => rfl
  | message sender receiver text => simp only [turned, rows, eq_comm]

theorem reachLeft_turned (name : String) (s : Statement) :
    s.turned.reachLeft name = s.reachLeft name := by
  cases s <;> rfl

theorem reachRight_turned (name : String) (s : Statement) :
    s.turned.reachRight name = s.reachRight name := by
  cases s with
  | declare _ | note _ _ _ | space _ => rfl
  | message sender receiver text => simp only [turned, reachRight, and_comm]

end Statement

namespace Clearance

variable {cs cs' : List Clearance}

/-- Only the end further left and the end further right of a message count. -/
theorem ofStatement_turned (names : List String) (s : Statement) :
    ofStatement names s.turned = ofStatement names s := by
  cases s with
  | declare _ | note _ _ _ | space _ => rfl
  | message sender receiver text =>
      simp only [Statement.turned, ofStatement]
      by_cases same : names.idxOf sender = names.idxOf receiver
      · rw [same]
      · rw [if_neg same, if_neg (Ne.symm same), Nat.min_comm, Nat.max_comm]

/-- Lifelines are placed by maxima, in which the order of the clearances does not show. -/
theorem lifelines_perm (perm : cs.Perm cs') (first n : Nat) :
    lifelines first cs n = lifelines first cs' n := by
  induction n with
  | zero => rfl
  | succ n ih =>
      have next : nextLifeline first cs (lifelines first cs' n) =
          nextLifeline first cs' (lifelines first cs' n) :=
        ((perm.filter _).map _).foldr_eq first
      rw [lifelines, lifelines, ih, next]

end Clearance

namespace Diagram

variable {d e : Diagram}

/-- Whether the second diagram has the statements of the first one in any order, with any of the
messages the other way around. -/
def Rearranged (d e : Diagram) : Prop :=
  ∃ ordered : Diagram, d.Perm ordered ∧ List.Forall₂ (fun s t => t = s ∨ t = s.turned) ordered e

theorem participants_map_declare (declared : List (List String)) :
    participants (declared.map .declare) = declared.flatten.eraseDups := by
  rw [participants, List.flatMap_map, ← List.flatMap_id]
  rfl

/-- Participants that are declared in front stay in that order, whatever mentions them later. -/
theorem participants_of_declared {front rest : Diagram}
    (declared : ∀ s ∈ rest, ∀ name ∈ s.mentions, name ∈ front.participants) :
    participants (front ++ rest) = front.participants := by
  have none_new : (rest.flatMap Statement.mentions).removeAll
      (front.flatMap Statement.mentions) = [] := by
    refine List.filter_eq_nil_iff.2 fun name mem => ?_
    obtain ⟨s, statement, mentioned⟩ := List.mem_flatMap.1 mem
    have before := List.mem_eraseDups.1 (declared s statement name mentioned)
    simpa using before
  rw [participants, List.flatMap_append, List.eraseDups_append, none_new, List.eraseDups_nil,
    List.append_nil, participants]

namespace Rearranged

theorem append_left (front : Diagram) (rearranged : d.Rearranged e) :
    Diagram.Rearranged (front ++ d) (front ++ e) := by
  obtain ⟨ordered, perm, turned⟩ := rearranged
  exact ⟨front ++ ordered, perm.append_left front,
    List.rel_append (List.forall₂_same.2 fun _ _ => .inl rfl) turned⟩

/-- What is the same for a message and its reply only changes its order. -/
theorem map_perm {α : Type} {f : Statement → α} (rearranged : d.Rearranged e)
    (same : ∀ s, f s.turned = f s) : (d.map f).Perm (e.map f) := by
  obtain ⟨ordered, perm, turned⟩ := rearranged
  have each : ordered.map f = e.map f := by
    clear perm
    induction turned with
    | nil => rfl
    | cons here _ ih =>
        rw [List.map_cons, List.map_cons, ih]
        rcases here with rfl | rfl
        · rfl
        · rw [same]
  rw [← each]
  exact perm.map f

/-- What holds of all statements and their turned forms alike still holds of all of them. -/
theorem forall_mem {p : Statement → Prop} (rearranged : d.Rearranged e)
    (same : ∀ s, p s.turned ↔ p s) (all : ∀ s ∈ d, p s) : ∀ t ∈ e, p t := by
  intro t mem
  have perm := rearranged.map_perm (f := p) fun s => propext (same s)
  obtain ⟨s, mem', eq⟩ := List.mem_map.1 (perm.mem_iff.2 (List.mem_map_of_mem mem))
  rw [← eq]
  exact all s mem'

theorem rows_eq (rearranged : d.Rearranged e) : e.rows = d.rows := by
  rw [rows_eq_sum, rows_eq_sum]
  exact (rearranged.map_perm Statement.rows_turned).symm.foldr_eq 0

theorem leftReach_eq (rearranged : d.Rearranged e) (name : String) :
    Layout.leftReach e name = Layout.leftReach d name :=
  (rearranged.map_perm (Statement.reachLeft_turned name)).symm.foldr_eq _

theorem rightReach_eq (rearranged : d.Rearranged e) (name : String) :
    Layout.rightReach e name = Layout.rightReach d name :=
  (rearranged.map_perm (Statement.reachRight_turned name)).symm.foldr_eq _

theorem clearances_perm (rearranged : d.Rearranged e) (names : List String) :
    (Clearance.ofDiagram names e).Perm (Clearance.ofDiagram names d) := by
  have demands := rearranged.map_perm (Clearance.ofStatement_turned names)
  rw [Clearance.ofDiagram, Clearance.ofDiagram, List.flatMap_def, List.flatMap_def]
  exact demands.symm.flatten.append_left _

theorem lifelines_eq (rearranged : d.Rearranged e) (names : e.participants = d.participants) :
    Layout.lifelines e = Layout.lifelines d := by
  have first : Layout.leftReach e = Layout.leftReach d := funext rearranged.leftReach_eq
  rw [Layout.lifelines, Layout.lifelines, names, first]
  exact Clearance.lifelines_perm (rearranged.clearances_perm _) _ _

end Rearranged

end Diagram

/-- Whether two columns are the same but for the statements filed with them. -/
structure Column.SamePlace (c c' : Column) : Prop where
  name : c'.name = c.name
  boxStart : c'.boxStart = c.boxStart
  boxStop : c'.boxStop = c.boxStop
  lifeline : c'.lifeline = c.lifeline
  spanStart : c'.spanStart = c.spanStart
  spanStop : c'.spanStop = c.spanStop

namespace Layout

variable {d e : Diagram}

theorem samePlace_columns (rearranged : d.Rearranged e)
    (names : e.participants = d.participants) :
    List.Forall₂ Column.SamePlace (ofDiagram d).columns (ofDiagram e).columns := by
  have left := rearranged.leftReach_eq
  have right := rearranged.rightReach_eq
  simp only [ofDiagram, columnsOf, names, rearranged.lifelines_eq names,
    List.forall₂_map_left_iff, List.forall₂_map_right_iff, List.forall₂_same]
  rintro ⟨⟨name, lifeline⟩, i⟩ _
  constructor <;> simp only [columnOf, Column.boxStart, Column.boxStop, Column.spanStart,
    Column.spanStop, left, right]

theorem width_of_samePlace
    (same : List.Forall₂ Column.SamePlace (ofDiagram d).columns (ofDiagram e).columns) :
    (ofDiagram e).width = (ofDiagram d).width := by
  have stops : List.Forall₂ (fun c c' => c.spanStop = c'.spanStop)
      (ofDiagram d).columns (ofDiagram e).columns := same.imp fun _ _ place => place.spanStop.symm
  rw [← List.forall₂_map_right_iff, ← List.forall₂_map_left_iff (f := Column.spanStop),
    List.forall₂_eq_eq_eq] at stops
  have maxima := congrArg (List.foldr max 0) stops
  exact maxima.symm

/-- Statements that follow the declaration of all participants they mention can change places, and
messages can point the other way, without moving a column or changing the size of the chart: the
participants are those declared, in that order. Each statement takes as many rows as before. -/
theorem ofDiagram_rearranged {declared : List (List String)} {rest rest' : Diagram}
    (mentioned : ∀ s ∈ rest, ∀ name ∈ s.mentions, ∃ names ∈ declared, name ∈ names)
    (rearranged : rest.Rearranged rest') :
    let d : Diagram := declared.map .declare ++ rest
    let d' : Diagram := declared.map .declare ++ rest'
    (ofDiagram d).columns.map Column.name = declared.flatten.eraseDups ∧
    List.Forall₂ Column.SamePlace (ofDiagram d).columns (ofDiagram d').columns ∧
    (ofDiagram d').width = (ofDiagram d).width ∧ (ofDiagram d').height = (ofDiagram d).height ∧
    ∀ (i j : Nat) (s t : Statement), d[i]? = some s → d'[j]? = some t → t = s ∨ t = s.turned →
      ∃ band band' : Band, (ofDiagram d).bands[i]? = some band ∧
        (ofDiagram d').bands[j]? = some band' ∧
        band'.bottom - band'.top = band.bottom - band.top := by
  intro d d'
  let front : Diagram := declared.map .declare
  have of_declared : ∀ s ∈ rest, ∀ name ∈ s.mentions, name ∈ front.participants := by
    intro s mem name mention
    obtain ⟨names, declaration, named⟩ := mentioned s mem name mention
    exact Diagram.mem_participants (List.mem_map_of_mem declaration) named
  have of_declared' : ∀ s ∈ rest', ∀ name ∈ s.mentions, name ∈ front.participants :=
    rearranged.forall_mem (fun s => forall_congr' fun name =>
      imp_congr_left Statement.mem_mentions_turned) of_declared
  have names : d.participants = front.participants := Diagram.participants_of_declared of_declared
  have names' : d'.participants = front.participants :=
    Diagram.participants_of_declared of_declared'
  have whole : d.Rearranged d' := rearranged.append_left front
  have columns := samePlace_columns whole (names'.trans names.symm)
  refine ⟨?_, columns, width_of_samePlace columns, ?_, ?_⟩
  · rw [name_columns, names, Diagram.participants_map_declare]
  · simp only [ofDiagram, whole.rows_eq]
  · intro i j s t here there same
    refine ⟨_, _, getElem?_bands_eq_some here, getElem?_bands_eq_some there, ?_⟩
    have rows : t.rows = s.rows := by
      rcases same with rfl | rfl
      · rfl
      · exact s.rows_turned
    rw [bottom_eq, bottom_eq, Nat.add_sub_cancel_left, Nat.add_sub_cancel_left, rows]

/-- Three statements in the opposite order, with one of two messages turned. The columns stay where
they are, but other statements are filed with them. -/
theorem ofDiagram_rearranged_reply :
    let front : Diagram := [.declare ["a", "b"]]
    let rest : Diagram := [.message "a" "b" "ask", .message "a" "a" "go", .note .right "b" "wait"]
    let rest' : Diagram := [.note .right "b" "wait", .message "a" "a" "go", .message "b" "a" "ask"]
    (∀ s ∈ rest, ∀ name ∈ s.mentions, ∃ names ∈ [["a", "b"]], name ∈ names) ∧
      rest.Rearranged rest' ∧
      List.Forall₂ Column.SamePlace (ofDiagram (front ++ rest)).columns
        (ofDiagram (front ++ rest')).columns ∧
      (ofDiagram (front ++ rest')).width = (ofDiagram (front ++ rest)).width ∧
      (ofDiagram (front ++ rest')).columns ≠ (ofDiagram (front ++ rest)).columns := by
  intro front rest rest'
  have mentioned : ∀ s ∈ rest, ∀ name ∈ s.mentions, ∃ names ∈ [["a", "b"]], name ∈ names := by
    decide
  have rearranged : rest.Rearranged rest' := by
    refine ⟨rest.reverse, (List.reverse_perm rest).symm, ?_⟩
    exact .cons (.inl rfl) (.cons (.inl rfl) (.cons (.inr rfl) .nil))
  obtain ⟨_, columns, width, _⟩ := ofDiagram_rearranged mentioned rearranged
  exact ⟨mentioned, rearranged, columns, width, by decide⟩

end Layout

end SequenceChart
