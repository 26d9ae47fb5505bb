import Mathlib.Data.Int.Order.Basic
import SequenceChart.Proofs.Dossiers
import SequenceChart.Proofs.Leftmost

/-!
The columns of a layout in one sweep from left to right. Each box is put as far left as the box
before it, and what is filed with the participants so far, allow; the first one starts in column
zero, so what stands to its left has negative columns. At the end everything is shifted until
nothing is left of column zero. This gives the columns of the layout: the boxes of the sweep keep
apart and none stands further right than it has to, and it is the first participant that reaches
furthest to the left.
-/

namespace SequenceChart

section

variable {α : Type} [LinearOrder α] {xs : List α} {m x : α}

theorem le_foldr_min_iff {a : α} : m ≤ xs.foldr min a ↔ m ≤ a ∧ ∀ x ∈ xs, m ≤ x := by
  induction xs with
  | nil => simp
  | cons x xs ih =>
      rw [List.foldr_cons, le_min_iff, ih, List.forall_mem_cons]
      exact and_left_comm

end

/-! The sweep. -/

/-- Where a participant stands before the shift. -/
@[ext]
structure Standing where
  boxStart : Int
  boxStop : Int
  lifeline : Int
  spanStart : Int
  spanStop : Int
  deriving DecidableEq, Repr

namespace Standing

/-- The columns that the box of a participant must not start before, by what is filed with it and
with those before it. -/
def bounds (dossiers : List Dossier) (placed : List Standing) (half : Int)
    (dossier before : Dossier) (last : Standing) : List Int :=
  (dossier.notes.filter (·.side = .left)).map
      (fun note => last.lifeline + 1 + note.width + 1 - half) ++
    (before.notes.filter (·.side = .right)).map (fun note => last.lifeline + 1 + note.width) ++
    (dossiers.zip placed).flatMap (fun (sender, standing) =>
      (sender.messages.filter fun message => !message.toSelf && message.far == placed.length).map
        fun message => standing.lifeline + 1 + message.width) ++
    (before.messages.filter (·.toSelf)).map (fun message => last.lifeline + 1 + message.width)

/-- The least column for the next box. -/
def leftEdge (dossiers : List Dossier) (placed : List Standing) (half : Int) (dossier : Dossier) :
    Int :=
  match placed.getLast?, dossiers[placed.length - 1]? with
  | some last, some before =>
    (bounds dossiers placed half dossier before last).foldr max (last.boxStop + 1)
  | _, _ => 0

/-- Puts down the next participant, and takes for it what its box, its notes and its messages to
itself need. -/
def next (dossiers : List Dossier) (placed : List Standing) (dossier : Dossier) : Standing :=
  let half : Int := ((boxWidth dossier.name - 1) / 2 : Nat)
  let boxStart := leftEdge dossiers placed half dossier
  let boxStop := boxStart + boxWidth dossier.name
  let lifeline := boxStart + half
  let left := (dossier.notes.filter (·.side = .left)).map fun note => lifeline - 1 - note.width
  let right := (dossier.notes.filter (·.side = .right)).map fun note => lifeline + 2 + note.width
  let loops := (dossier.messages.filter (·.toSelf)).map fun message => lifeline + 1 + message.width
  { boxStart := boxStart
    boxStop := boxStop
    lifeline := lifeline
    spanStart := left.foldr min boxStart
    spanStop := (right ++ loops).foldr max boxStop }

/-- The first `n` participants. -/
def sweep (dossiers : List Dossier) : Nat → List Standing
  | 0 => []
  | n + 1 =>
    let placed := sweep dossiers n
    placed ++ dossiers[n]?.toList.map (next dossiers placed)

def ofDiagram (d : Diagram) : List Standing :=
  sweep (Dossier.ofDiagram d) (Dossier.ofDiagram d).length

/-- The leftmost column in use. -/
def leftmost (placed : List Standing) : Int :=
  (placed.map spanStart).min?.getD 0

/-- The column just behind the rightmost one in use. -/
def rightmost (placed : List Standing) : Int :=
  (placed.map spanStop).max?.getD 0

/-! Where the sweep puts a participant. -/

theorem length_sweep {dossiers : List Dossier} {n : Nat} (le : n ≤ dossiers.length) :
    (sweep dossiers n).length = n := by
  induction n with
  | zero => rfl
  | succ n ih =>
      rw [sweep, List.length_append, ih (Nat.le_of_succ_le le), List.getElem?_eq_getElem le]
      rfl

theorem getElem?_sweep {dossiers : List Dossier} {i n : Nat} (le : n ≤ dossiers.length)
    (lt : i < n) :
    (sweep dossiers n)[i]? = dossiers[i]?.map (next dossiers (sweep dossiers i)) := by
  induction n with
  | zero => contradiction
  | succ n ih =>
      have length := length_sweep (Nat.le_of_succ_le le)
      rw [sweep]
      rcases Nat.lt_or_eq_of_le (Nat.le_of_lt_succ lt) with earlier | rfl
      · rw [List.getElem?_append_left (by omega)]
        exact ih (Nat.le_of_succ_le le) earlier
      · rw [List.getElem?_append_right (by omega), length, List.getElem?_eq_getElem le,
          Nat.sub_self]
        rfl

/-- The participant with this position and name, when the sweep has got to it. -/
def sweptAt (d : Diagram) (i : Nat) (name : String) : Standing :=
  next (Dossier.ofDiagram d) (sweep (Dossier.ofDiagram d) i) (.ofParticipant d i name)

/-- The columns that the boxes start in. -/
def sweptStart (d : Diagram) (i : Nat) : Int :=
  (d.participants[i]?.map fun name => (sweptAt d i name).boxStart).getD 0

variable {d : Diagram} {i k n : Nat} {name before : String}

theorem length_sweep_participants (le : n ≤ d.participants.length) :
    (sweep (Dossier.ofDiagram d) n).length = n :=
  length_sweep (by rwa [Dossier.length_ofDiagram])

theorem getElem?_sweep_participants (le : n ≤ d.participants.length) (lt : i < n) :
    (sweep (Dossier.ofDiagram d) n)[i]? = d.participants[i]?.map (sweptAt d i) := by
  rw [getElem?_sweep (by rwa [Dossier.length_ofDiagram]) lt, Dossier.getElem?_ofDiagram,
    Option.map_map]
  rfl

theorem boxStart_sweptAt (here : d.participants[i]? = some name) :
    (sweptAt d i name).boxStart = sweptStart d i := by
  rw [sweptStart, here]
  rfl

theorem boxStop_sweptAt (here : d.participants[i]? = some name) :
    (sweptAt d i name).boxStop = sweptStart d i + boxWidth name := by
  rw [← boxStart_sweptAt here]
  rfl

theorem lifeline_sweptAt (here : d.participants[i]? = some name) :
    (sweptAt d i name).lifeline = d.middle (sweptStart d) i := by
  rw [Diagram.middle, ← boxStart_sweptAt here, here]
  rfl

theorem sweptStart_zero (d : Diagram) : sweptStart d 0 = 0 := by
  rw [sweptStart]
  cases d.participants[0]? <;> rfl

end Standing

namespace Diagram

variable {d : Diagram} {start start' : Nat → Int} {i : Nat} {name before : String} {x : Int}

/-- What boxes in these columns, up to the one at position `i`, demand of the next one. -/
structure Allows (d : Diagram) (start : Nat → Int) (i : Nat) (before name : String) (x : Int) :
    Prop where
  box : start i + boxWidth before + 1 ≤ x
  leftNote : ∀ text, .note .left name text ∈ d →
    d.middle start i + 1 + noteWidth text + 1 - halfBox name ≤ x
  rightNote : ∀ text, .note .right before text ∈ d → d.middle start i + 1 + noteWidth text ≤ x
  message : ∀ j other text, j < i + 1 → d.participants[j]? = some other →
    .message other name text ∈ d ∨ .message name other text ∈ d →
      d.middle start j + 1 + messageWidth text ≤ x
  selfMessage : ∀ text, .message before before text ∈ d →
    d.middle start i + 1 + messageWidth text ≤ x

/-- Boxes further left demand less. -/
theorem Allows.mono (allows : d.Allows start i before name x)
    (le : ∀ j < i + 1, start' j ≤ start j) : d.Allows start' i before name x := by
  have box := le i (Nat.lt_succ_self i)
  have middle {j : Nat} (earlier : j < i + 1) : d.middle start' j ≤ d.middle start j :=
    Int.add_le_add_right (le j earlier) _
  have here := middle (Nat.lt_succ_self i)
  constructor
  case box => exact Int.le_trans (by omega) allows.box
  case leftNote => exact fun text mem => Int.le_trans (by omega) (allows.leftNote text mem)
  case rightNote => exact fun text mem => Int.le_trans (by omega) (allows.rightNote text mem)
  case message =>
    intro j other text earlier there mem
    have there' := middle earlier
    exact Int.le_trans (by omega) (allows.message j other text earlier there mem)
  case selfMessage => exact fun text mem => Int.le_trans (by omega) (allows.selfMessage text mem)

/-- The boxes keep apart when each of them stands where those before it allow. -/
theorem keepsApart_iff : d.KeepsApart start ↔ ∀ i before name, d.participants[i]? = some before →
    d.participants[i + 1]? = some name → d.Allows start i before name (start (i + 1)) := by
  constructor
  · intro apart i before name here there
    obtain ⟨inside, _⟩ := List.getElem?_eq_some_iff.1 there
    constructor
    case box => exact apart.boxes i before here inside
    case leftNote =>
      intro text mem
      have gap := apart.leftNote i name text there mem
      rw [middle_eq there] at gap
      omega
    case rightNote => exact fun text mem => apart.rightNote i before text here inside mem
    case message =>
      exact fun j other text earlier there' mem =>
        apart.message j (i + 1) other name text earlier there' there mem
    case selfMessage => exact fun text mem => apart.selfMessage i before text here inside mem
  · intro each
    have next {i : Nat} {before : String} (here : d.participants[i]? = some before)
        (inside : i + 1 < d.participants.length) :=
      each i before _ here (List.getElem?_eq_getElem inside)
    constructor
    case boxes => exact fun i name here inside => (next here inside).box
    case leftNote =>
      intro i name text there mem
      obtain ⟨inside, _⟩ := List.getElem?_eq_some_iff.1 there
      have here := List.getElem?_eq_getElem (Nat.lt_of_succ_lt inside)
      have gap := (each i _ name here there).leftNote text mem
      rw [middle_eq there]
      omega
    case rightNote => exact fun i name text here inside => (next here inside).rightNote text
    case message =>
      intro i j name name' text earlier here there mem
      cases j with
      | zero => contradiction
      | succ j =>
          obtain ⟨inside, _⟩ := List.getElem?_eq_some_iff.1 there
          have before := List.getElem?_eq_getElem (Nat.lt_of_succ_lt inside)
          exact (each j _ name' before there).message i name text earlier here mem
    case selfMessage => exact fun i name text here inside => (next here inside).selfMessage text

end Diagram

namespace Standing

variable {d : Diagram} {i k n : Nat} {name before : String} {x : Int}

/-- The participants already placed, each with what is filed with it. -/
theorem mem_placed (inside : n ≤ d.participants.length) {pair : Dossier × Standing} :
    pair ∈ (Dossier.ofDiagram d).zip (sweep (Dossier.ofDiagram d) n) ↔
      ∃ j other, j < n ∧ d.participants[j]? = some other ∧
        pair = (.ofParticipant d j other, sweptAt d j other) := by
  obtain ⟨dossier, standing⟩ := pair
  rw [List.mem_iff_getElem?]
  simp only [List.getElem?_zip_eq_some, Dossier.getElem?_ofDiagram, Option.map_eq_some_iff]
  constructor
  · rintro ⟨j, ⟨other, there, rfl⟩, swept⟩
    obtain ⟨earlier, _⟩ := List.getElem?_eq_some_iff.1 swept
    rw [length_sweep_participants inside] at earlier
    rw [getElem?_sweep_participants inside earlier, there] at swept
    cases swept
    exact ⟨j, other, earlier, there, rfl⟩
  · rintro ⟨j, other, earlier, there, same⟩
    cases same
    refine ⟨j, ⟨other, there, rfl⟩, ?_⟩
    rw [getElem?_sweep_participants inside earlier, there]
    rfl

/-- A message to the next participant is filed with the participant at its other end. -/
theorem forall_crossing_placed (there : d.participants[n]? = some name) :
    (∀ pair ∈ (Dossier.ofDiagram d).zip (sweep (Dossier.ofDiagram d) n),
      ∀ message ∈ pair.1.messages.filter (fun m => !m.toSelf && m.far == n),
        pair.2.lifeline + 1 + message.width ≤ x) ↔
      ∀ j other text, j < n → d.participants[j]? = some other →
        .message other name text ∈ d ∨ .message name other text ∈ d →
          d.middle (sweptStart d) j + 1 + messageWidth text ≤ x := by
  obtain ⟨inside, _⟩ := List.getElem?_eq_some_iff.1 there
  have crossing {j : Nat} {other : String} (here : d.participants[j]? = some other)
      (earlier : j < n) :=
    Dossier.forall_crossing (P := fun w => d.middle (sweptStart d) j + 1 + w ≤ x) here there earlier
  constructor
  · intro each j other text earlier here mem
    have filed := each _ ((mem_placed (Nat.le_of_lt inside)).2 ⟨j, other, earlier, here, rfl⟩)
    rw [lifeline_sweptAt here] at filed
    exact (crossing here earlier).1 filed text mem
  · intro each pair placed
    obtain ⟨j, other, earlier, here, rfl⟩ := (mem_placed (Nat.le_of_lt inside)).1 placed
    rw [lifeline_sweptAt here]
    exact (crossing here earlier).2 fun text => each j other text earlier here

theorem leftEdge_sweep (here : d.participants[i]? = some before) (half : Int) (dossier : Dossier) :
    leftEdge (Dossier.ofDiagram d) (sweep (Dossier.ofDiagram d) (i + 1)) half dossier =
      (bounds (Dossier.ofDiagram d) (sweep (Dossier.ofDiagram d) (i + 1)) half dossier
        (.ofParticipant d i before) (sweptAt d i before)).foldr max
          ((sweptAt d i before).boxStop + 1) := by
  obtain ⟨inside, _⟩ := List.getElem?_eq_some_iff.1 here
  have length : (sweep (Dossier.ofDiagram d) (i + 1)).length = i + 1 :=
    length_sweep_participants inside
  have last : (sweep (Dossier.ofDiagram d) (i + 1)).getLast? = some (sweptAt d i before) := by
    rw [List.getLast?_eq_getElem?, length, Nat.add_sub_cancel,
      getElem?_sweep_participants inside (Nat.lt_succ_self i), here]
    rfl
  have filed : (Dossier.ofDiagram d)[(sweep (Dossier.ofDiagram d) (i + 1)).length - 1]? =
      some (.ofParticipant d i before) := by
    rw [length, Nat.add_sub_cancel, Dossier.getElem?_ofDiagram, here]
    rfl
  rw [leftEdge, last, filed]

theorem sweptStart_succ_le_iff (here : d.participants[i]? = some before)
    (there : d.participants[i + 1]? = some name) :
    sweptStart d (i + 1) ≤ x ↔ d.Allows (sweptStart d) i before name x := by
  obtain ⟨inside, _⟩ := List.getElem?_eq_some_iff.1 there
  rw [← boxStart_sweptAt there]
  change leftEdge _ _ ((boxWidth name - 1) / 2 : Nat) _ ≤ x ↔ _
  rw [leftEdge_sweep here, Layout.half_boxWidth, foldr_max_le_iff, bounds,
    length_sweep_participants (Nat.le_of_lt inside)]
  simp only [List.forall_mem_append, List.forall_mem_map, List.forall_mem_flatMap]
  rw [boxStop_sweptAt here, lifeline_sweptAt here,
    Dossier.forall_notes (P := fun w => d.middle (sweptStart d) i + 1 + w + 1 - halfBox name ≤ x)
      .left there,
    Dossier.forall_notes (P := fun w => d.middle (sweptStart d) i + 1 + w ≤ x) .right here,
    Dossier.forall_loops (P := fun w => d.middle (sweptStart d) i + 1 + w ≤ x) here,
    forall_crossing_placed there]
  constructor
  · rintro ⟨box, ⟨⟨left, right⟩, crossing⟩, loops⟩
    exact ⟨box, left, right, crossing, loops⟩
  · rintro ⟨box, left, right, crossing, loops⟩
    exact ⟨box, ⟨⟨left, right⟩, crossing⟩, loops⟩

/-! The boxes of the sweep are those of the layout. -/

theorem keepsApart_sweptStart (d : Diagram) : d.KeepsApart (sweptStart d) :=
  Diagram.keepsApart_iff.2 fun _ _ _ here there =>
    (sweptStart_succ_le_iff here there).1 (Int.le_refl _)

/-- By induction on the position: what the boxes before it demand of a box grows with their
columns. -/
theorem sweptStart_le {start : Nat → Int} (apart : d.KeepsApart start) (zero : start 0 = 0)
    (here : d.participants[k]? = some name) : sweptStart d k ≤ start k := by
  induction k using Nat.strongRecOn generalizing name with
  | ind k ih =>
      cases k with
      | zero => rw [sweptStart_zero, zero]
      | succ k =>
          obtain ⟨inside, _⟩ := List.getElem?_eq_some_iff.1 here
          have before := List.getElem?_eq_getElem (Nat.lt_of_succ_lt inside)
          refine (sweptStart_succ_le_iff before here).2 ?_
          refine (Diagram.keepsApart_iff.1 apart k _ name before here).mono fun j earlier => ?_
          exact ih j earlier (List.getElem?_eq_getElem (Nat.lt_trans earlier inside))

theorem sweptStart_eq (here : d.participants[k]? = some name) :
    sweptStart d k = (Layout.ofDiagram d).boxOffset k :=
  Int.le_antisymm (sweptStart_le (Layout.keepsApart_boxOffset d) (Int.sub_self _) here)
    (Layout.boxOffset_le (keepsApart_sweptStart d) (sweptStart_zero d) here)

/-! What stands at a lifeline of the sweep. -/

/-- How far the sweep is to the left of the layout: what stands left of the first box. -/
def overhang (d : Diagram) : Int :=
  Layout.lifelineAt d 0 - Clearance.halfAt d.participants 0

theorem lifeline_sweptAt_eq (here : d.participants[k]? = some name) :
    (sweptAt d k name).lifeline = Layout.lifelineAt d k - overhang d := by
  obtain ⟨inside, _⟩ := List.getElem?_eq_some_iff.1 here
  have front := List.getElem?_eq_getElem (Nat.zero_lt_of_lt inside)
  rw [lifeline_sweptAt here, Diagram.middle_eq here, sweptStart_eq here,
    Layout.boxOffset_eq here front, overhang, Layout.halfAt_eq front]
  omega

theorem boxStart_eq (d : Diagram) (i : Nat) (name : String) :
    (sweptAt d i name).boxStart = (sweptAt d i name).lifeline - halfBox name := by
  change _ = (sweptAt d i name).boxStart + ((boxWidth name - 1) / 2 : Nat) - halfBox name
  rw [Layout.half_boxWidth]
  omega

theorem boxStop_eq (d : Diagram) (i : Nat) (name : String) :
    (sweptAt d i name).boxStop = (sweptAt d i name).lifeline + halfBox name + 1 := by
  change (sweptAt d i name).boxStart + boxWidth name = _
  rw [boxStart_eq, boxWidth]
  omega

theorem le_spanStart_iff (here : d.participants[i]? = some name) :
    x ≤ (sweptAt d i name).spanStart ↔ x ≤ (sweptAt d i name).boxStart ∧
      ∀ text, .note .left name text ∈ d → x ≤ (sweptAt d i name).lifeline - 1 - noteWidth text := by
  rw [← Dossier.forall_notes (P := fun w => x ≤ (sweptAt d i name).lifeline - 1 - w) .left here]
  refine le_foldr_min_iff.trans (and_congr_right fun _ => ?_)
  rw [List.forall_mem_map]
  rfl

theorem spanStop_le_iff (here : d.participants[i]? = some name) :
    (sweptAt d i name).spanStop ≤ x ↔ (sweptAt d i name).boxStop ≤ x ∧
      (∀ text, .note .right name text ∈ d →
        (sweptAt d i name).lifeline + 2 + noteWidth text ≤ x) ∧
      ∀ text, .message name name text ∈ d →
        (sweptAt d i name).lifeline + 1 + messageWidth text ≤ x := by
  rw [← Dossier.forall_notes (P := fun w => (sweptAt d i name).lifeline + 2 + w ≤ x) .right here,
    ← Dossier.forall_loops (P := fun w => (sweptAt d i name).lifeline + 1 + w ≤ x) here]
  refine foldr_max_le_iff.trans (and_congr_right fun _ => ?_)
  rw [List.forall_mem_append, List.forall_mem_map, List.forall_mem_map]
  rfl

theorem spanStart_eq (here : d.participants[i]? = some name) :
    (sweptAt d i name).spanStart = (sweptAt d i name).lifeline - Layout.leftReach d name := by
  have box := boxStart_eq d i name
  apply Int.le_antisymm
  · obtain ⟨start, notes⟩ := (le_spanStart_iff here).1 (Int.le_refl _)
    have reach : Layout.leftReach d name ≤
        ((sweptAt d i name).lifeline - (sweptAt d i name).spanStart).toNat := by
      refine Layout.leftReach_le_iff.2 ⟨by omega, fun text mem => ?_⟩
      have note := notes text mem
      omega
    omega
  · have half := Layout.halfBox_le_leftReach d name
    refine (le_spanStart_iff here).2 ⟨by omega, fun text mem => ?_⟩
    have note := Layout.leftNote_le_leftReach mem
    omega

theorem spanStop_eq (here : d.participants[i]? = some name) :
    (sweptAt d i name).spanStop = (sweptAt d i name).lifeline + Layout.rightReach d name := by
  have box := boxStop_eq d i name
  apply Int.le_antisymm
  · have half := Layout.halfBox_lt_rightReach d name
    refine (spanStop_le_iff here).2 ⟨by omega, fun text mem => ?_, fun text mem => ?_⟩
    · have note := Layout.rightNote_le_rightReach mem
      omega
    · have loop := Layout.selfMessage_le_rightReach mem
      omega
  · obtain ⟨stop, notes, loops⟩ := (spanStop_le_iff here).1 (Int.le_refl _)
    have reach : Layout.rightReach d name ≤
        ((sweptAt d i name).spanStop - (sweptAt d i name).lifeline).toNat := by
      refine Layout.rightReach_le_iff.2 ⟨by omega, fun text mem => ?_, fun text mem => ?_⟩
      · have note := notes text mem
        omega
      · have loop := loops text mem
        omega
    omega

/-! The shift. -/

/-- The place of a column. -/
def ofColumn (c : Column) : Standing where
  boxStart := c.boxStart
  boxStop := c.boxStop
  lifeline := c.lifeline
  spanStart := c.spanStart
  spanStop := c.spanStop

/-- The same place when columns count from another one. -/
def countedFrom (origin : Int) (s : Standing) : Standing where
  boxStart := s.boxStart - origin
  boxStop := s.boxStop - origin
  lifeline := s.lifeline - origin
  spanStart := s.spanStart - origin
  spanStop := s.spanStop - origin

theorem countedFrom_countedFrom (m n : Int) (s : Standing) :
    (s.countedFrom m).countedFrom n = s.countedFrom (m + n) := by
  simp only [countedFrom, Int.sub_sub]

theorem countedFrom_zero (s : Standing) : s.countedFrom 0 = s := by
  simp only [countedFrom, Int.sub_zero]

/-- A participant of the sweep stands where its column is, but for what the sweep hangs over. -/
theorem sweptAt_eq (here : d.participants[i]? = some name) (placements : List Placement) :
    sweptAt d i name =
      (ofColumn (Layout.columnOf d placements i name (Layout.lifelineAt d i))).countedFrom
        (overhang d) := by
  have lifeline := lifeline_sweptAt_eq here
  have start := boxStart_eq d i name
  have stop := boxStop_eq d i name
  have left := spanStart_eq here
  have right := spanStop_eq here
  have room := Layout.leftReach_le_lifelineAt here
  have half := Layout.halfBox_le_leftReach d name
  ext <;>
    simp only [countedFrom, ofColumn, Column.boxStart, Column.boxStop, Column.spanStart,
      Column.spanStop, Layout.columnOf] <;>
    omega

theorem ofDiagram_eq (d : Diagram) : ofDiagram d =
    (Layout.ofDiagram d).columns.map fun c => (ofColumn c).countedFrom (overhang d) := by
  have length : (ofDiagram d).length = d.participants.length := by
    rw [ofDiagram, Dossier.length_ofDiagram, length_sweep_participants (Nat.le_refl _)]
  apply List.ext_getElem?
  intro i
  rw [List.getElem?_map, Layout.getElem?_columns, Option.map_map]
  cases here : d.participants[i]? with
  | none =>
      rw [List.getElem?_eq_none_iff] at here
      exact List.getElem?_eq_none (by omega)
  | some name =>
      obtain ⟨inside, _⟩ := List.getElem?_eq_some_iff.1 here
      rw [ofDiagram, Dossier.length_ofDiagram,
        getElem?_sweep_participants (Nat.le_refl _) inside, here]
      exact congrArg some (sweptAt_eq here _)

/-- Nothing stands further left than the first participant reaches. -/
theorem leftmost_ofDiagram {c : Column} (first : (Layout.ofDiagram d).columns.head? = some c) :
    leftmost (ofDiagram d) = -overhang d := by
  have least : ((ofDiagram d).map spanStart).min? = some (-overhang d) := by
    rw [ofDiagram_eq, List.map_map]
    refine List.min?_eq_some_iff.2 ⟨List.mem_map.2 ⟨c, List.mem_of_head? first, ?_⟩, ?_⟩
    · change (c.spanStart : Int) - overhang d = _
      rw [Layout.spanStart_of_first first]
      omega
    · rw [List.forall_mem_map]
      intro c _
      change _ ≤ (c.spanStart : Int) - overhang d
      omega
  rw [leftmost, least]
  rfl

theorem rightmost_ofDiagram {c : Column} (first : (Layout.ofDiagram d).columns.head? = some c) :
    rightmost (ofDiagram d) = (Layout.ofDiagram d).width - overhang d := by
  have greatest : ((ofDiagram d).map spanStop).max? =
      some ((Layout.ofDiagram d).width - overhang d) := by
    obtain ⟨last, mem, reaches⟩ := Layout.exists_spanStop_eq_width (List.mem_of_head? first)
    rw [ofDiagram_eq, List.map_map]
    refine List.max?_eq_some_iff.2 ⟨List.mem_map.2 ⟨last, mem, ?_⟩, ?_⟩
    · rw [← reaches]
      rfl
    · rw [List.forall_mem_map]
      intro c mem
      have inside : c.spanStop ≤ (Layout.ofDiagram d).width :=
        le_foldr_max (List.mem_map_of_mem mem) 0
      change (c.spanStop : Int) - overhang d ≤ _
      omega
  rw [rightmost, greatest]
  rfl

/-- A note hangs over the first box to the left. -/
example : leftmost (ofDiagram [.note .left "A" "hi", .declare ["B"]]) = -5 := by decide +kernel

/-- The sweep ends with the layout: when columns count from the leftmost one in use, the
participants stand in the columns of the layout, and these reach to its width. -/
theorem layout_of_sweep (d : Diagram) :
    let l := Layout.ofDiagram d
    let placed := ofDiagram d
    l.columns.map Column.name = (Dossier.ofDiagram d).map Dossier.name ∧
      l.columns.map ofColumn = placed.map (countedFrom (leftmost placed)) ∧
      (l.width : Int) = rightmost placed - leftmost placed := by
  intro l placed
  refine ⟨?_, ?_⟩
  · apply List.ext_getElem?
    intro i
    rw [List.getElem?_map, List.getElem?_map, Layout.getElem?_columns, Dossier.getElem?_ofDiagram,
      Option.map_map, Option.map_map]
    rfl
  · cases first : l.columns.head? with
    | none =>
        have none_here : l.columns = [] := List.head?_eq_none_iff.1 first
        have empty : placed = [] := by
          rw [← List.map_nil, ← none_here]
          exact ofDiagram_eq d
        have width : l.width = (l.columns.map Column.spanStop).foldr max 0 := rfl
        rw [width, none_here, empty]
        exact ⟨rfl, rfl⟩
    | some c =>
        have left : leftmost placed = -overhang d := leftmost_ofDiagram first
        have right : rightmost placed = l.width - overhang d := rightmost_ofDiagram first
        have swept : placed = l.columns.map fun c => (ofColumn c).countedFrom (overhang d) :=
          ofDiagram_eq d
        refine ⟨?_, by omega⟩
        rw [left, swept, List.map_map]
        refine List.map_congr_left fun c _ => ?_
        rw [Function.comp_apply, countedFrom_countedFrom, Int.add_right_neg, countedFrom_zero]

end Standing

end SequenceChart
