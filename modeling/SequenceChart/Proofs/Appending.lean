import SequenceChart.Proofs.Bands
import SequenceChart.Proofs.Spacing

/-!
What one more statement does to a layout. All that was placed keeps its rows, its order and its
size, and notes and messages are only added behind the others. Boxes never move towards the first
one. Which of them may move away from it depends on the kind of the statement alone: only those
from the first lifeline on that has to make room for it.
-/

namespace SequenceChart

theorem idxOf_of_grown {names names' : List String} {name : String} (grown : names <+: names')
    (mem : name ∈ names) : names'.idxOf name = names.idxOf name := by
  obtain ⟨others, rfl⟩ := grown
  exact List.idxOf_append_of_mem mem

namespace Clearance

variable {first first' k : Nat} {cs cs' : List Clearance} {c : Clearance}
  {names names' : List String}

/-- A lifeline stands as far left as the clearances that end at it allow. -/
theorem placeAt_le_iff (forward : ∀ c ∈ cs, c.before < c.after) {m : Nat} :
    placeAt first cs k ≤ m ↔
      first ≤ m ∧ ∀ c ∈ cs, c.after = k → placeAt first cs c.before + c.distance ≤ m := by
  have length : (lifelines first cs k).length = k := by simp [lifelines_eq_map]
  have placed : ∀ c ∈ cs, c.after = k →
      (lifelines first cs k)[c.before]? = some (placeAt first cs c.before) := by
    rintro c mem rfl
    rw [lifelines_eq_map, List.getElem?_map, List.getElem?_range (forward c mem)]
    rfl
  rw [placeAt, nextLifeline, foldr_max_le_iff, List.forall_mem_map, length]
  refine and_congr_right fun _ => ⟨?_, ?_⟩
  · intro bound c mem ends
    have here := bound c (List.mem_filter.2 ⟨mem, decide_eq_true ends⟩)
    rwa [placed c mem ends] at here
  · intro bound c filtered
    obtain ⟨mem, ends⟩ := List.mem_filter.1 filtered
    rw [placed c mem (of_decide_eq_true ends)]
    exact bound c mem (of_decide_eq_true ends)

/-- Where no clearance up to a lifeline is given up, the lifeline comes no nearer to the first
one. By induction on the position, since a clearance is measured from an earlier lifeline. -/
theorem placeAt_mono (forward : ∀ c ∈ cs, c.before < c.after)
    (forward' : ∀ c ∈ cs', c.before < c.after) (kept : ∀ c ∈ cs, c.after ≤ k → c ∈ cs') :
    placeAt first cs k + first' ≤ placeAt first' cs' k + first := by
  induction k using Nat.strongRecOn with
  | ind k ih =>
      have start : first' ≤ placeAt first' cs' k := start_le_foldr_max _ _
      have bound : placeAt first cs k ≤ placeAt first' cs' k + first - first' := by
        refine (placeAt_le_iff forward).2 ⟨by omega, ?_⟩
        rintro c mem rfl
        have earlier := ih c.before (forward c mem) fun b mem' le =>
          kept b mem' (Nat.le_trans le (Nat.le_of_lt (forward c mem)))
        have mem' := kept c mem (Nat.le_refl _)
        have apart : placeAt first' cs' c.before + c.distance ≤ placeAt first' cs' c.after :=
          placeAt_add_le mem' (forward' c mem')
        omega
      omega

/-! More participants behind the others change no clearance between these. -/

theorem halfAt_of_grown (grown : names <+: names') (inside : k < names.length) :
    halfAt names' k = halfAt names k := by
  obtain ⟨others, rfl⟩ := grown
  rw [halfAt, halfAt, List.getElem?_append_left inside]

theorem mem_ofBoxes_iff : c ∈ ofBoxes names ↔ ∃ i, i + 1 < names.length ∧
    c = ⟨i, i + 1, halfAt names i + 2 + halfAt names (i + 1)⟩ := by
  simp only [ofBoxes, List.mem_map, List.mem_range, Nat.lt_sub_iff_add_lt, eq_comm]

theorem mem_ofBoxes_of_grown (grown : names <+: names') (inside : c.after < names.length) :
    c ∈ ofBoxes names' ↔ c ∈ ofBoxes names := by
  have longer := grown.length_le
  rw [mem_ofBoxes_iff, mem_ofBoxes_iff]
  refine exists_congr fun i => ?_
  constructor
  · rintro ⟨_, rfl⟩
    rw [halfAt_of_grown grown inside, halfAt_of_grown grown (Nat.lt_of_succ_lt inside)]
    exact ⟨inside, rfl⟩
  · rintro ⟨_, rfl⟩
    rw [halfAt_of_grown grown inside, halfAt_of_grown grown (Nat.lt_of_succ_lt inside)]
    exact ⟨by omega, rfl⟩

/-- A clearance in front of a box measures it, and this box is among those that are kept. -/
theorem eq_of_grown (grown : names <+: names') (inside : c.after < names.length) {i j n : Nat} :
    c = ⟨i, j, n + halfAt names' j⟩ ↔ c = ⟨i, j, n + halfAt names j⟩ := by
  constructor <;>
  · rintro rfl
    rw [halfAt_of_grown grown inside]

theorem mem_ofStatement_of_grown {s : Statement} (grown : names <+: names')
    (mentioned : ∀ name ∈ s.mentions, name ∈ names) (inside : c.after < names.length) :
    c ∈ ofStatement names' s ↔ c ∈ ofStatement names s := by
  have same : ∀ name ∈ s.mentions, names'.idxOf name = names.idxOf name :=
    fun name mem => idxOf_of_grown grown (mentioned name mem)
  cases s with
  | declare _ | space _ => exact Iff.rfl
  | message sender receiver text =>
      rw [ofStatement, ofStatement, same sender (by simp [Statement.mentions]),
        same receiver (by simp [Statement.mentions])]
      simp only [List.mem_singleton]
      exact eq_of_grown grown inside
  | note side participant text =>
      have here := same participant (by simp [Statement.mentions])
      cases side with
      | left => rw [ofStatement, ofStatement, here]
      | right =>
          rw [ofStatement, ofStatement, here]
          simp only [List.mem_singleton]
          exact eq_of_grown grown inside

end Clearance

namespace Statement

variable {names names' : List String} {s : Statement} {k : Nat}

theorem placement_of_grown (grown : names <+: names')
    (mentioned : ∀ name ∈ s.mentions, name ∈ names) : s.placement names' = s.placement names := by
  have same : ∀ name ∈ s.mentions, names'.idxOf name = names.idxOf name :=
    fun name mem => idxOf_of_grown grown (mentioned name mem)
  cases s with
  | declare _ | space _ => rfl
  | message sender receiver text =>
      rw [placement, placement, same sender (by simp [mentions]),
        same receiver (by simp [mentions])]
  | note side participant text =>
      rw [placement, placement, same participant (by simp [mentions])]

/-- Whether the statement is of no concern to the distance between the first box and that of the
participant at position `k`. What stands right of a lifeline can move the next one, a note on the
left moves its own, and a message moves the one further right of its ends. A note left of the first
lifeline moves the whole chart, and so no box against another. -/
def Spares (names : List String) (k : Nat) : Statement → Prop
  | .declare _ | .space _ => True
  | .note .left participant _ => names.idxOf participant = 0 ∨ k < names.idxOf participant
  | .note .right participant _ => k ≤ names.idxOf participant
  | .message sender receiver _ =>
    if sender = receiver then k ≤ names.idxOf sender
    else k < max (names.idxOf sender) (names.idxOf receiver)

instance (names : List String) (k : Nat) : (s : Statement) → Decidable (s.Spares names k)
  | .declare _ | .space _ => .isTrue trivial
  | .note .left participant _ =>
    inferInstanceAs (Decidable (names.idxOf participant = 0 ∨ k < names.idxOf participant))
  | .note .right participant _ => inferInstanceAs (Decidable (k ≤ names.idxOf participant))
  | .message sender receiver _ =>
    inferInstanceAs (Decidable (if sender = receiver then k ≤ names.idxOf sender
      else k < max (names.idxOf sender) (names.idxOf receiver)))

/-- No clearance of the statement ends at the participant or before. -/
theorem Spares.lt_after (spares : s.Spares names k) {c : Clearance}
    (demand : c ∈ Clearance.ofStatement names s) : k < c.after := by
  cases s with
  | declare _ | space _ => contradiction
  | message sender receiver text =>
      cases List.mem_singleton.1 demand
      simp only [Spares] at spares
      split at spares
      · next same =>
          subst same
          rw [if_pos rfl]
          exact Nat.lt_succ_of_le spares
      · dsimp only
        split <;> omega
  | note side participant text =>
      cases side with
      | left =>
          simp only [Clearance.ofStatement] at demand
          simp only [Spares] at spares
          split at demand
          · contradiction
          · cases List.mem_singleton.1 demand
            dsimp only
            omega
      | right =>
          cases List.mem_singleton.1 demand
          exact Nat.lt_succ_of_le spares

end Statement

namespace Diagram

theorem participants_grow (d e : Diagram) : d.participants <+: participants (d ++ e) := by
  rw [participants, participants, List.flatMap_append, List.eraseDups_append]
  exact List.prefix_append _ _

theorem getElem?_participants_append {d : Diagram} {k : Nat} {name : String} (e : Diagram)
    (here : d.participants[k]? = some name) : (participants (d ++ e))[k]? = some name := by
  obtain ⟨others, grown⟩ := participants_grow d e
  rw [← grown, List.getElem?_append_left (List.getElem?_eq_some_iff.1 here).1, here]

end Diagram

namespace Layout

variable {d : Diagram} {s : Statement} {i k : Nat}

/-- How far behind the first box the box of a participant starts. -/
def boxOffset (l : Layout) (k : Nat) : Int :=
  let start (i : Nat) : Int := ((l.columns[i]?).map fun c => (c.boxStart : Int)).getD 0
  start k - start 0

theorem bandAt_append (e : Diagram) (here : d[i]? = some s) :
    bandAt (d ++ e) i s = bandAt d i s := by
  have inside : i ≤ d.length := Nat.le_of_lt (List.getElem?_eq_some_iff.1 here).1
  have mentioned : ∀ name ∈ s.mentions, name ∈ d.participants :=
    fun name => Diagram.mem_participants (List.mem_of_getElem? here)
  rw [bandAt, bandAt, List.take_append_of_le_length inside,
    Statement.placement_of_grown (Diagram.participants_grow d e) mentioned]

theorem positions_append {α : Type} (accepts : α → Bool) (xs ys : List α) :
    positions accepts xs <+: positions accepts (xs ++ ys) := by
  rw [positions, positions, List.zipIdx_append, List.filterMap_append]
  exact List.prefix_append _ _

/-- Placements that are decided early stay right. -/
theorem map_placement_append (d e : Diagram) :
    d.map (Statement.placement (Diagram.participants (d ++ e))) =
      d.map (Statement.placement d.participants) :=
  List.map_congr_left fun _ mem => Statement.placement_of_grown
    (Diagram.participants_grow d e) fun _ => Diagram.mem_participants mem

theorem placements_append (d e : Diagram) :
    d.map (Statement.placement d.participants) <+:
      (d ++ e).map (Statement.placement (Diagram.participants (d ++ e))) := by
  rw [List.map_append, map_placement_append]
  exact List.prefix_append _ _

/-- Between participants that were there before, a further statement adds its own clearances and
changes no other. -/
theorem mem_clearances_append {c : Clearance} (inside : c.after < d.participants.length) :
    c ∈ Clearance.ofDiagram (Diagram.participants (d ++ [s])) (d ++ [s]) ↔
      c ∈ Clearance.ofDiagram d.participants d ∨
        c ∈ Clearance.ofStatement (Diagram.participants (d ++ [s])) s := by
  have grown := Diagram.participants_grow d [s]
  have kept : (∃ t ∈ d, c ∈ Clearance.ofStatement (Diagram.participants (d ++ [s])) t) ↔
      ∃ t ∈ d, c ∈ Clearance.ofStatement d.participants t :=
    exists_congr fun t => and_congr_right fun mem => Clearance.mem_ofStatement_of_grown grown
      (fun name => Diagram.mem_participants mem) inside
  rw [Clearance.ofDiagram, Clearance.ofDiagram, List.flatMap_append, List.mem_append,
    List.mem_append, List.mem_append, Clearance.mem_ofBoxes_of_grown grown inside,
    List.flatMap_singleton, List.mem_flatMap, List.mem_flatMap, kept, or_assoc]

theorem lifelineAt_append_le (s : Statement) (inside : k < d.participants.length) :
    lifelineAt d k + lifelineAt (d ++ [s]) 0 ≤ lifelineAt (d ++ [s]) k + lifelineAt d 0 := by
  rw [lifelineAt_zero, lifelineAt_zero]
  refine Clearance.placeAt_mono (fun _ => Clearance.before_lt_after)
    (fun _ => Clearance.before_lt_after) fun c mem le => ?_
  exact (mem_clearances_append (Nat.lt_of_le_of_lt le inside)).2 (.inl mem)

theorem le_lifelineAt_append (inside : k < d.participants.length)
    (spares : s.Spares (Diagram.participants (d ++ [s])) k) :
    lifelineAt (d ++ [s]) k + lifelineAt d 0 ≤ lifelineAt d k + lifelineAt (d ++ [s]) 0 := by
  rw [lifelineAt_zero, lifelineAt_zero]
  refine Clearance.placeAt_mono (fun _ => Clearance.before_lt_after)
    (fun _ => Clearance.before_lt_after) fun c mem le => ?_
  cases (mem_clearances_append (Nat.lt_of_le_of_lt le inside)).1 mem with
  | inl kept => exact kept
  | inr added => exact absurd (spares.lt_after added) (Nat.not_lt_of_le le)

/-! The columns of participants that were there before. -/

section

variable {name first : String}

theorem boxStart_add_halfBox (here : d.participants[k]? = some name) :
    lifelineAt d k - halfBox name + halfBox name = lifelineAt d k :=
  Nat.sub_add_cancel (Nat.le_trans (halfBox_le_leftReach d name) (leftReach_le_lifelineAt here))

theorem boxOffset_eq (here : d.participants[k]? = some name)
    (front : d.participants[0]? = some first) : (ofDiagram d).boxOffset k =
      (lifelineAt d k : Int) - halfBox name - (lifelineAt d 0 - halfBox first) := by
  have this_box := boxStart_add_halfBox here
  have first_box := boxStart_add_halfBox front
  simp only [boxOffset, getElem?_columns, here, front, Option.map_some, Option.getD_some,
    Column.boxStart, columnOf]
  omega

theorem boxOffset_append (s : Statement) (here : d.participants[k]? = some name) :
    (ofDiagram d).boxOffset k ≤ (ofDiagram (d ++ [s])).boxOffset k ∧
      (s.Spares (Diagram.participants (d ++ [s])) k →
        (ofDiagram (d ++ [s])).boxOffset k = (ofDiagram d).boxOffset k) := by
  have inside := (List.getElem?_eq_some_iff.1 here).1
  have front := List.getElem?_eq_getElem (Nat.zero_lt_of_lt inside)
  have apart := lifelineAt_append_le s inside
  rw [boxOffset_eq here front, boxOffset_eq (Diagram.getElem?_participants_append [s] here)
    (Diagram.getElem?_participants_append [s] front)]
  refine ⟨by omega, fun spares => ?_⟩
  have near := le_lifelineAt_append inside spares
  omega

end

/-- A further statement leaves the bands of the others and the participants' names, order and boxes
as they are, and adds to their notes and messages only at the end. It takes no box nearer to the
first one, and moves none of those that it spares. -/
theorem ofDiagram_append (d : Diagram) (s : Statement) :
    let l := ofDiagram d
    let l' := ofDiagram (d ++ [s])
    (∀ (i : Nat) (t : Statement), d[i]? = some t → ∃ band : Band,
      l.bands[i]? = some band ∧ l'.bands[i]? = some band) ∧
    ∀ (k : Nat) (c : Column), l.columns[k]? = some c → ∃ c' : Column, l'.columns[k]? = some c' ∧
      c'.name = c.name ∧ c'.boxStop - c'.boxStart = c.boxStop - c.boxStart ∧
      c.notes <+: c'.notes ∧ c.messages <+: c'.messages ∧
      l.boxOffset k ≤ l'.boxOffset k ∧
      (s.Spares (Diagram.participants (d ++ [s])) k → l'.boxOffset k = l.boxOffset k) := by
  intro l l'
  refine ⟨?_, ?_⟩
  · intro i t here
    have there : (d ++ [s])[i]? = some t := by
      rw [List.getElem?_append_left (List.getElem?_eq_some_iff.1 here).1, here]
    refine ⟨bandAt d i t, ?_, ?_⟩
    · rw [getElem?_bands, here, Option.map_some]
    · rw [getElem?_bands, there, Option.map_some, bandAt_append [s] here]
  · intro k c column
    obtain ⟨name, here, rfl⟩ := columns_getElem?_iff.1 column
    have here' := Diagram.getElem?_participants_append [s] here
    obtain ⟨placed, placements⟩ := placements_append d [s]
    refine ⟨_, columns_getElem?_iff.2 ⟨name, here', rfl⟩, rfl, ?_, ?_, ?_, boxOffset_append s here⟩
    · have this_box := boxStart_add_halfBox here
      have that_box := boxStart_add_halfBox here'
      simp only [Column.boxStart, Column.boxStop, columnOf]
      omega
    · rw [columnOf, columnOf, ← placements]
      exact positions_append _ _ _
    · rw [columnOf, columnOf, ← placements]
      exact positions_append _ _ _

/-- A long message from the first to the last of three participants. -/
theorem ofDiagram_append_message :
    let d : Diagram := [.declare ["a", "b", "c"]]
    let s : Statement := .message "c" "a" "far away"
    s.Spares (Diagram.participants (d ++ [s])) 1 ∧
      (ofDiagram (d ++ [s])).boxOffset 1 = (ofDiagram d).boxOffset 1 ∧
        (ofDiagram d).boxOffset 2 < (ofDiagram (d ++ [s])).boxOffset 2 := by
  intro d s
  have spares : s.Spares (Diagram.participants (d ++ [s])) 1 := by decide
  obtain ⟨_, _, _, _, _, _, _, same⟩ := (ofDiagram_append d s).2 1 _ rfl
  exact ⟨spares, same spares, by decide⟩

end Layout

end SequenceChart
