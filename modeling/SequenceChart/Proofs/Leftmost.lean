import SequenceChart.Proofs.Appending

/-!
Boxes stand as close together as their neighbourhood allows. What a chart demands of the places of
its boxes is stated here for any places, measured from the first box. The layout meets the demands,
and whatever else meets them puts no box further left.
-/

namespace SequenceChart

namespace Clearance

variable {first k : Nat} {cs : List Clearance}

/-- Lifelines elsewhere that keep the clearances stand no nearer to the first one, when none of them
stands before it. By induction on the position: a clearance is measured from an earlier lifeline. -/
theorem placeAt_le_of_kept {place : Nat → Int} (forward : ∀ c ∈ cs, c.before < c.after)
    (start : ∀ j ≤ k, place 0 ≤ place j)
    (kept : ∀ c ∈ cs, c.after ≤ k → place c.before + c.distance ≤ place c.after) :
    placeAt first cs k + place 0 ≤ place k + first := by
  induction k using Nat.strongRecOn with
  | ind k ih =>
      have from_start := start k (Nat.le_refl k)
      have bound : placeAt first cs k ≤ (place k - place 0 + first).toNat := by
        refine (placeAt_le_iff forward).2 ⟨by omega, ?_⟩
        rintro c mem rfl
        have before := forward c mem
        have earlier := ih c.before before (fun j le => start j (by omega))
          fun b mem' le => kept b mem' (by omega)
        have apart := kept c mem (Nat.le_refl _)
        omega
      omega

end Clearance

namespace Diagram

variable {d : Diagram} {start : Nat → Int} {i k : Nat} {name : String}

/-- The column of a lifeline when the boxes start where `start` says. -/
def middle (d : Diagram) (start : Nat → Int) (i : Nat) : Int :=
  start i + ((d.participants[i]?.map fun name => (boxWidth name - 1) / 2).getD 0 : Nat)

/-- What a chart demands of the columns that its boxes start in. A box ends a column before the next
one starts; a note on the left leaves a column free behind the lifeline before it; and what stands
right of a lifeline ends before the box that it points to, or before the next one. -/
structure KeepsApart (d : Diagram) (start : Nat → Int) : Prop where
  boxes : ∀ i name, d.participants[i]? = some name → i + 1 < d.participants.length →
    start i + boxWidth name + 1 ≤ start (i + 1)
  leftNote : ∀ i name text, d.participants[i + 1]? = some name → .note .left name text ∈ d →
    d.middle start i + 1 ≤ d.middle start (i + 1) - 1 - noteWidth text
  rightNote : ∀ i name text, d.participants[i]? = some name → i + 1 < d.participants.length →
    .note .right name text ∈ d → d.middle start i + 1 + noteWidth text ≤ start (i + 1)
  message : ∀ i j name name' text, i < j → d.participants[i]? = some name →
    d.participants[j]? = some name' →
      .message name name' text ∈ d ∨ .message name' name text ∈ d →
        d.middle start i + 1 + messageWidth text ≤ start j
  selfMessage : ∀ i name text, d.participants[i]? = some name → i + 1 < d.participants.length →
    .message name name text ∈ d → d.middle start i + 1 + messageWidth text ≤ start (i + 1)

theorem middle_eq (here : d.participants[i]? = some name) :
    d.middle start i = start i + halfBox name := by
  rw [middle, here, Option.map_some, Option.getD_some, Layout.half_boxWidth]

theorem middle_eq_halfAt (inside : i < d.participants.length) :
    d.middle start i = start i + Clearance.halfAt d.participants i := by
  have here := List.getElem?_eq_getElem inside
  rw [middle_eq here, Layout.halfAt_eq here]

/-- No lifeline stands before the first one. -/
theorem KeepsApart.middle_zero_le (apart : d.KeepsApart start)
    (inside : k < d.participants.length) : d.middle start 0 ≤ d.middle start k := by
  induction k with
  | zero => exact Int.le_refl _
  | succ k ih =>
      have here := List.getElem?_eq_getElem (Nat.lt_of_succ_lt inside)
      have earlier := ih (Nat.lt_of_succ_lt inside)
      have next := apart.boxes k _ here inside
      rw [middle_eq here, boxWidth] at *
      rw [middle_eq (List.getElem?_eq_getElem inside)]
      omega

/-- Whoever meets the demands keeps every clearance. -/
theorem KeepsApart.clearance (apart : d.KeepsApart start) {c : Clearance}
    (mem : c ∈ Clearance.ofDiagram d.participants d) (inside : c.after < d.participants.length) :
    d.middle start c.before + c.distance ≤ d.middle start c.after := by
  rcases List.mem_append.1 mem with box | demand
  · obtain ⟨i, next, rfl⟩ := Clearance.mem_ofBoxes_iff.1 box
    have here := List.getElem?_eq_getElem (Nat.lt_of_succ_lt next)
    have gap := apart.boxes i _ here next
    rw [boxWidth] at gap
    dsimp only
    rw [middle_eq here, middle_eq_halfAt next, Layout.halfAt_eq here]
    omega
  · obtain ⟨s, statement, of_s⟩ := List.mem_flatMap.1 demand
    cases s with
    | declare _ | space _ => contradiction
    | note side participant text =>
        have here := List.getElem?_idxOf (Layout.participant_mem statement)
        cases side with
        | left =>
            simp only [Clearance.ofStatement] at of_s
            split at of_s
            · contradiction
            · next i index =>
                cases List.mem_singleton.1 of_s
                rw [index] at here
                have gap := apart.leftNote i participant text here statement
                dsimp only
                omega
        | right =>
            cases List.mem_singleton.1 of_s
            have gap := apart.rightNote _ participant text here inside statement
            dsimp only at inside ⊢
            rw [middle_eq_halfAt inside]
            omega
    | message sender receiver text =>
        have sender_here := List.getElem?_idxOf (Layout.sender_mem statement)
        have receiver_here := List.getElem?_idxOf (Layout.receiver_mem statement)
        cases List.mem_singleton.1 of_s
        rcases Layout.message_cases statement with rfl | before | behind
        · simp only [if_true, Nat.min_self] at inside ⊢
          have gap := apart.selfMessage _ sender text sender_here inside statement
          rw [middle_eq_halfAt inside]
          omega
        · simp only [Nat.ne_of_lt before, if_false, Nat.min_eq_left (Nat.le_of_lt before),
            Nat.max_eq_right (Nat.le_of_lt before)] at inside ⊢
          have gap := apart.message _ _ _ _ text before sender_here receiver_here (.inl statement)
          rw [middle_eq_halfAt inside]
          omega
        · simp only [Nat.ne_of_gt behind, if_false, Nat.min_eq_right (Nat.le_of_lt behind),
            Nat.max_eq_left (Nat.le_of_lt behind)] at inside ⊢
          have gap := apart.message _ _ _ _ text behind receiver_here sender_here (.inr statement)
          rw [middle_eq_halfAt inside]
          omega

end Diagram

namespace Layout

variable {d : Diagram} {start : Nat → Int} {k : Nat} {name first : String}

theorem middle_boxOffset (here : d.participants[k]? = some name)
    (front : d.participants[0]? = some first) : d.middle (ofDiagram d).boxOffset k =
      (lifelineAt d k : Int) - (lifelineAt d 0 - halfBox first) := by
  rw [Diagram.middle_eq here, boxOffset_eq here front]
  omega

theorem keepsApart_boxOffset (d : Diagram) : d.KeepsApart (ofDiagram d).boxOffset := by
  have front {i : Nat} (inside : i < d.participants.length) : d.participants[0]? = some _ :=
    List.getElem?_eq_getElem (Nat.zero_lt_of_lt inside)
  have inside {i : Nat} {name : String} (here : d.participants[i]? = some name) :
      i < d.participants.length := (List.getElem?_eq_some_iff.1 here).1
  constructor
  case boxes =>
    intro i name here next
    have gap := clear_of_boxes next
    have there := List.getElem?_eq_getElem next
    rw [halfAt_eq here, halfAt_eq there] at gap
    rw [boxOffset_eq here (front next), boxOffset_eq there (front next), boxWidth]
    omega
  case leftNote =>
    intro i name text there mem
    have here := List.getElem?_eq_getElem (Nat.lt_of_succ_lt (inside there))
    have gap := clear_of_leftNote mem (Diagram.participants_getElem?_iff.1 there).2
    rw [middle_boxOffset here (front (inside there)), middle_boxOffset there (front (inside there))]
    omega
  case rightNote =>
    intro i name text here next mem
    have there := List.getElem?_eq_getElem next
    have gap := clear_of_rightNote mem (Diagram.participants_getElem?_iff.1 here).2
    rw [halfAt_eq there] at gap
    rw [middle_boxOffset here (front next), boxOffset_eq there (front next)]
    omega
  case message =>
    intro i j name name' text before here there mem
    obtain ⟨_, index⟩ := Diagram.participants_getElem?_iff.1 here
    obtain ⟨_, index'⟩ := Diagram.participants_getElem?_iff.1 there
    have gap : lifelineAt d i + (messageWidth text + 1 + halfBox name') ≤ lifelineAt d j := by
      rw [← halfAt_eq there]
      rcases mem with mem | mem
      · exact clear_of_message mem before (.inl ⟨index, index'⟩)
      · exact clear_of_message mem before (.inr ⟨index', index⟩)
    rw [middle_boxOffset here (front (inside here)), boxOffset_eq there (front (inside here))]
    omega
  case selfMessage =>
    intro i name text here next mem
    obtain ⟨_, index⟩ := Diagram.participants_getElem?_iff.1 here
    have there := List.getElem?_eq_getElem next
    have gap := clear_of_selfMessage mem index index
    rw [halfAt_eq there] at gap
    rw [middle_boxOffset here (front next), boxOffset_eq there (front next)]
    omega

theorem boxOffset_le (apart : d.KeepsApart start) (zero : start 0 = 0)
    (here : d.participants[k]? = some name) : (ofDiagram d).boxOffset k ≤ start k := by
  obtain ⟨inside, _⟩ := List.getElem?_eq_some_iff.1 here
  have front := List.getElem?_eq_getElem (Nat.zero_lt_of_lt inside)
  have least : lifelineAt d k + d.middle start 0 ≤ d.middle start k + lifelineAt d 0 := by
    rw [lifelineAt_zero]
    refine Clearance.placeAt_le_of_kept (fun _ => Clearance.before_lt_after) ?_ ?_
    · exact fun j le => apart.middle_zero_le (Nat.lt_of_le_of_lt le inside)
    · exact fun c mem le => apart.clearance mem (Nat.lt_of_le_of_lt le inside)
  have middle : d.middle start k = _ := Diagram.middle_eq here
  have middle_front : d.middle start 0 = _ := Diagram.middle_eq front
  rw [boxOffset_eq here front]
  omega

/-- The boxes of a layout, measured from the first of them, meet all demands of the chart, and they
are the least that do: any other places that meet them are nowhere further left. -/
theorem boxes_leftmost (d : Diagram) :
    let l := ofDiagram d
    (∀ k c first, l.columns[k]? = some c → l.columns[0]? = some first →
      c.boxStart + boxWidth c.name = c.boxStop ∧
        l.boxOffset k = (c.boxStart : Int) - first.boxStart ∧
        d.middle l.boxOffset k = (c.lifeline : Int) - first.boxStart) ∧
    l.boxOffset 0 = 0 ∧ d.KeepsApart l.boxOffset ∧
    ∀ start : Nat → Int, start 0 = 0 → d.KeepsApart start →
      ∀ k c, l.columns[k]? = some c → l.boxOffset k ≤ start k := by
  intro l
  refine ⟨?_, Int.sub_self _, keepsApart_boxOffset d, ?_⟩
  · intro k c first column front
    have roomy := roomy_of_mem (List.mem_of_getElem? column)
    have offset : l.boxOffset k = (c.boxStart : Int) - first.boxStart := by
      simp only [boxOffset, column, front, Option.map_some, Option.getD_some]
    obtain ⟨name, here, rfl⟩ := columns_getElem?_iff.1 column
    have centred := roomy.centred
    refine ⟨roomy.box, offset, ?_⟩
    rw [Diagram.middle_eq here, offset]
    simp only [columnOf] at centred ⊢
    omega
  · intro start zero apart k c column
    obtain ⟨name, here, _⟩ := columns_getElem?_iff.1 column
    exact boxOffset_le apart zero here

end Layout

end SequenceChart
