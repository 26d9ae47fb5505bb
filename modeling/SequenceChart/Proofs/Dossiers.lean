import SequenceChart.Proofs.Collection

/-!
What is filed with a participant, as far as its column depends on it. The notes about it and the
messages whose endpoint further left it is are read off the folders that have been collected.
-/

namespace SequenceChart

/-- A note as far as the columns depend on it. -/
structure FiledNote where
  side : Side
  width : Nat
  deriving DecidableEq, Repr

/-- A message as far as the columns depend on it. -/
structure FiledMessage where
  /-- The position of the participant at its right end. -/
  far : Nat
  toSelf : Bool
  width : Nat
  deriving DecidableEq, Repr

/-- The notes about a participant, and the messages whose endpoint further left it is. -/
structure Dossier where
  name : String
  notes : List FiledNote
  messages : List FiledMessage
  deriving DecidableEq, Repr

namespace Dossier

def note? : Statement → Option FiledNote
  | .note side _ text => some ⟨side, noteWidth text⟩
  | .declare _ | .message .. | .space _ => none

def message? (names : List String) : Statement → Option FiledMessage
  | .message sender receiver text =>
    some ⟨max (names.idxOf sender) (names.idxOf receiver), sender == receiver, messageWidth text⟩
  | .declare _ | .note .. | .space _ => none

/-- What the statements say that are filed in a folder. -/
def ofFolder (d : Diagram) (f : Folder) : Dossier where
  name := f.name
  notes := f.notes.filterMap fun k => d[k]?.bind note?
  messages := f.messages.filterMap fun k => d[k]?.bind (message? d.participants)

/-- The dossiers of all participants, as they have been collected. -/
def ofDiagram (d : Diagram) : List Dossier :=
  (Register.ofDiagram d).folders.map (ofFolder d)

variable {d : Diagram} {i j k : Nat} {name name' : String} {P : Nat → Prop}

/-- The dossier of the participant with this position and name. -/
def ofParticipant (d : Diagram) (i : Nat) (name : String) : Dossier :=
  ofFolder d ⟨name, Layout.positions (·.isNoteAt i) (d.map (Statement.placement d.participants)),
    Layout.positions (·.isMessageFrom i) (d.map (Statement.placement d.participants))⟩

theorem getElem?_ofDiagram (d : Diagram) (i : Nat) :
    (ofDiagram d)[i]? = d.participants[i]?.map (ofParticipant d i) := by
  rw [ofDiagram, Register.ofDiagram_eq, Register.foldersOf, List.getElem?_map,
    List.getElem?_mapIdx, Option.map_map]
  rfl

theorem length_ofDiagram (d : Diagram) : (ofDiagram d).length = d.participants.length := by
  rw [ofDiagram, Register.ofDiagram_eq, Register.foldersOf, List.length_map, List.length_mapIdx]

theorem forall_notes (side : Side) (here : d.participants[i]? = some name) :
    (∀ note ∈ (ofParticipant d i name).notes.filter (·.side = side), P note.width) ↔
      ∀ text, .note side name text ∈ d → P (noteWidth text) := by
  simp only [ofParticipant, ofFolder, List.mem_filter, List.mem_filterMap, Layout.mem_positions,
    List.getElem?_map, Option.map_eq_some_iff, decide_eq_true_eq]
  constructor
  · intro each text mem
    obtain ⟨k, statement⟩ := List.mem_iff_getElem?.1 mem
    refine each ⟨side, noteWidth text⟩ ⟨⟨k, ⟨_, ⟨_, statement, rfl⟩, ?_⟩, ?_⟩, rfl⟩
    · exact (Statement.isNoteAt_placement mem here).2 ⟨side, text, rfl⟩
    · rw [statement]
      rfl
  · rintro each note ⟨⟨k, ⟨_, ⟨s, statement, rfl⟩, filed⟩, read⟩, rfl⟩
    have mem := List.mem_of_getElem? statement
    obtain ⟨side, text, rfl⟩ := (Statement.isNoteAt_placement mem here).1 filed
    rw [statement] at read
    cases read
    exact each text mem

theorem mem_messages {message : FiledMessage} : message ∈ (ofParticipant d i name).messages ↔
    ∃ sender receiver text, .message sender receiver text ∈ d ∧
      min (d.participants.idxOf sender) (d.participants.idxOf receiver) = i ∧
      message = ⟨max (d.participants.idxOf sender) (d.participants.idxOf receiver),
        sender == receiver, messageWidth text⟩ := by
  simp only [ofParticipant, ofFolder, List.mem_filterMap, Layout.mem_positions, List.getElem?_map,
    Option.map_eq_some_iff]
  constructor
  · rintro ⟨k, ⟨_, ⟨s, statement, rfl⟩, filed⟩, read⟩
    obtain ⟨sender, receiver, text, rfl, lower⟩ := (Statement.isMessageFrom_placement _ s i).1 filed
    rw [statement] at read
    cases read
    exact ⟨sender, receiver, text, List.mem_of_getElem? statement, lower, rfl⟩
  · rintro ⟨sender, receiver, text, mem, lower, rfl⟩
    obtain ⟨k, statement⟩ := List.mem_iff_getElem?.1 mem
    refine ⟨k, ⟨_, ⟨_, statement, rfl⟩, ?_⟩, ?_⟩
    · exact (Statement.isMessageFrom_placement _ _ i).2 ⟨sender, receiver, text, rfl, lower⟩
    · rw [statement]
      rfl

theorem forall_loops (here : d.participants[i]? = some name) :
    (∀ message ∈ (ofParticipant d i name).messages.filter (·.toSelf), P message.width) ↔
      ∀ text, .message name name text ∈ d → P (messageWidth text) := by
  obtain ⟨_, index⟩ := Diagram.participants_getElem?_iff.1 here
  constructor
  · intro each text mem
    refine each ⟨_, _, _⟩ (List.mem_filter.2 ⟨mem_messages.2 ⟨name, name, text, mem, ?_, rfl⟩, ?_⟩)
    · rw [Nat.min_self, index]
    · simp
  · intro each message filtered
    obtain ⟨filed, loop⟩ := List.mem_filter.1 filtered
    obtain ⟨sender, receiver, text, mem, lower, rfl⟩ := mem_messages.1 filed
    obtain rfl : sender = receiver := by simpa using loop
    rw [Nat.min_self] at lower
    have there := Diagram.participants_getElem?_iff.2 ⟨Layout.sender_mem mem, lower⟩
    cases here.symm.trans there
    exact each text mem

/-- The messages between two participants are filed with the one further left. -/
theorem forall_crossing (here : d.participants[j]? = some name)
    (there : d.participants[k]? = some name') (before : j < k) :
    (∀ message ∈ (ofParticipant d j name).messages.filter (fun m => !m.toSelf && m.far == k),
      P message.width) ↔
      ∀ text, .message name name' text ∈ d ∨ .message name' name text ∈ d →
        P (messageWidth text) := by
  obtain ⟨_, index⟩ := Diagram.participants_getElem?_iff.1 here
  obtain ⟨_, index'⟩ := Diagram.participants_getElem?_iff.1 there
  have differ : name ≠ name' := by
    rintro rfl
    omega
  constructor
  · rintro each text (mem | mem)
    · refine each ⟨_, _, _⟩ (List.mem_filter.2
        ⟨mem_messages.2 ⟨name, name', text, mem, ?_, rfl⟩, ?_⟩)
      · omega
      · simp only [Bool.and_eq_true, Bool.not_eq_true', beq_eq_false_iff_ne, beq_iff_eq]
        exact ⟨differ, by omega⟩
    · refine each ⟨_, _, _⟩ (List.mem_filter.2
        ⟨mem_messages.2 ⟨name', name, text, mem, ?_, rfl⟩, ?_⟩)
      · omega
      · simp only [Bool.and_eq_true, Bool.not_eq_true', beq_eq_false_iff_ne, beq_iff_eq]
        exact ⟨differ.symm, by omega⟩
  · intro each message filtered
    obtain ⟨filed, crossing⟩ := List.mem_filter.1 filtered
    obtain ⟨sender, receiver, text, mem, lower, rfl⟩ := mem_messages.1 filed
    simp only [Bool.and_eq_true, Bool.not_eq_true', beq_eq_false_iff_ne, beq_iff_eq] at crossing
    have sender_here {i : Nat} (at_i : d.participants.idxOf sender = i) :=
      Diagram.participants_getElem?_iff.2 ⟨Layout.sender_mem mem, at_i⟩
    have receiver_here {i : Nat} (at_i : d.participants.idxOf receiver = i) :=
      Diagram.participants_getElem?_iff.2 ⟨Layout.receiver_mem mem, at_i⟩
    rcases Nat.le_total (d.participants.idxOf sender) (d.participants.idxOf receiver) with le | le
    · cases here.symm.trans (sender_here (by omega))
      cases there.symm.trans (receiver_here (by omega))
      exact each text (.inl mem)
    · cases here.symm.trans (receiver_here (by omega))
      cases there.symm.trans (sender_here (by omega))
      exact each text (.inr mem)

end Dossier

end SequenceChart
