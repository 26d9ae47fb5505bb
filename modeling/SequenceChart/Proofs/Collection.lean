import SequenceChart.Proofs.Appending

/-!
How a layout collects its participants. They are numbered in the order of their first mention, and
every note and every message is filed with one of them under the position of its statement. None of
this has to wait for the last statement: reading one statement after the other, and deciding on each
at once by the names known so far, ends with the same names, files and placements.
-/

namespace SequenceChart

namespace Layout

section

variable {α : Type} {accepts : α → Bool} {xs : List α} {k : Nat}

theorem mem_positions : k ∈ positions accepts xs ↔ ∃ x, xs[k]? = some x ∧ accepts x = true := by
  simp only [positions, List.mem_filterMap, Prod.exists, List.mem_zipIdx_iff_getElem?,
    Option.ite_none_right_eq_some, Option.some.injEq]
  constructor
  · rintro ⟨x, i, here, accepted, rfl⟩
    exact ⟨x, here, accepted⟩
  · rintro ⟨x, here, accepted⟩
    exact ⟨x, k, here, accepted, rfl⟩

theorem positions_concat (accepts : α → Bool) (xs : List α) (x : α) :
    positions accepts (xs ++ [x]) =
      positions accepts xs ++ if accepts x then [xs.length] else [] := by
  rw [positions, positions, List.zipIdx_append, List.filterMap_append]
  by_cases accepted : accepts x <;> simp [accepted]

theorem positions_eq_nil (refused : ∀ x ∈ xs, accepts x = false) : positions accepts xs = [] := by
  refine List.eq_nil_iff_forall_not_mem.2 fun k mem => ?_
  obtain ⟨x, here, accepted⟩ := mem_positions.1 mem
  rw [refused x (List.mem_of_getElem? here)] at accepted
  contradiction

theorem pairwise_positions (accepts : α → Bool) (xs : List α) :
    (positions accepts xs).Pairwise (· < ·) := by
  induction xs using List.reverseRecOn with
  | nil => exact .nil
  | append_singleton xs x ih =>
      rw [positions_concat]
      refine List.pairwise_append.2 ⟨ih, by split <;> simp, fun k mem last is_last => ?_⟩
      obtain ⟨_, here, _⟩ := mem_positions.1 mem
      have inside := (List.getElem?_eq_some_iff.1 here).1
      split at is_last
      · rwa [List.mem_singleton.1 is_last]
      · contradiction

end

end Layout

/-- Lists that have no members in common, and none twice, are put together without repetitions. -/
theorem nodup_flatMap_of_unique {α β : Type} {xs : List α} {f : α → List β}
    (each : ∀ x ∈ xs, (f x).Nodup)
    (unique : ∀ (i j : Nat) (x y : α) (b : β), xs[i]? = some x → xs[j]? = some y → b ∈ f x →
      b ∈ f y → i = j) :
    (xs.flatMap f).Nodup := by
  refine List.nodup_flatMap.2 ⟨each, List.pairwise_iff_getElem.2 ?_⟩
  intro i j hi hj before b mem mem'
  have same := unique i j _ _ b (List.getElem?_eq_getElem hi) (List.getElem?_eq_getElem hj) mem mem'
  exact Nat.ne_of_lt before same

namespace Statement

variable {d : Diagram} {s : Statement} {i : Nat} {name : String}

theorem isNoteAt_placement (mem : s ∈ d) (here : d.participants[i]? = some name) :
    (s.placement d.participants).isNoteAt i = true ↔ ∃ side text, s = .note side name text := by
  cases s with
  | declare _ | space _ | message _ _ _ => simp [placement, Placement.isNoteAt]
  | note side participant text =>
      have there := Layout.participant_mem mem
      simp only [placement, Placement.isNoteAt, beq_iff_eq, note.injEq]
      constructor
      · intro index
        have same := Diagram.participants_getElem?_iff.2 ⟨there, index⟩
        exact ⟨side, text, rfl, Option.some.inj (same.symm.trans here), rfl⟩
      · rintro ⟨_, _, _, rfl, _⟩
        exact (Diagram.participants_getElem?_iff.1 here).2

theorem isMessageFrom_placement (names : List String) (s : Statement) (i : Nat) :
    (s.placement names).isMessageFrom i = true ↔ ∃ sender receiver text,
      s = .message sender receiver text ∧ min (names.idxOf sender) (names.idxOf receiver) = i := by
  cases s with
  | declare _ | space _ | note _ _ _ => simp [placement, Placement.isMessageFrom]
  | message sender receiver text => simp [placement, Placement.isMessageFrom]

/-- Whether a placement says what the statement is, with its names given by their positions in the
finished layout. -/
def PlacedIn (l : Layout) : Statement → Placement → Prop
  | .declare _, p => p = .declaration
  | .space _, p => p = .space
  | .note side participant _, p => ∃ i, l.indexOf? participant = some i ∧ p = .note i side
  | .message sender receiver _, p => ∃ i j, l.indexOf? sender = some i ∧
    l.indexOf? receiver = some j ∧ p = .message i j

end Statement

namespace Layout

variable {d : Diagram} {i k : Nat} {c : Column}

theorem mem_notes (column : (ofDiagram d).columns[i]? = some c) :
    k ∈ c.notes ↔ ∃ side text, d[k]? = some (.note side c.name text) := by
  obtain ⟨name, here, rfl⟩ := columns_getElem?_iff.1 column
  simp only [columnOf, mem_positions, List.getElem?_map, Option.map_eq_some_iff]
  constructor
  · rintro ⟨_, ⟨s, statement, rfl⟩, filed⟩
    obtain ⟨side, text, rfl⟩ :=
      (Statement.isNoteAt_placement (List.mem_of_getElem? statement) here).1 filed
    exact ⟨side, text, statement⟩
  · rintro ⟨side, text, statement⟩
    refine ⟨_, ⟨_, statement, rfl⟩, ?_⟩
    exact (Statement.isNoteAt_placement (List.mem_of_getElem? statement) here).2 ⟨side, text, rfl⟩

theorem mem_messages (column : (ofDiagram d).columns[i]? = some c) :
    k ∈ c.messages ↔ ∃ sender receiver text a b, d[k]? = some (.message sender receiver text) ∧
      (ofDiagram d).indexOf? sender = some a ∧ (ofDiagram d).indexOf? receiver = some b ∧
        min a b = i := by
  obtain ⟨name, _, rfl⟩ := columns_getElem?_iff.1 column
  simp only [columnOf, mem_positions, List.getElem?_map, Option.map_eq_some_iff]
  constructor
  · rintro ⟨_, ⟨s, statement, rfl⟩, filed⟩
    obtain ⟨sender, receiver, text, rfl, lower⟩ := (Statement.isMessageFrom_placement _ s i).1 filed
    have mem := List.mem_of_getElem? statement
    exact ⟨sender, receiver, text, _, _, statement, indexOf?_eq (sender_mem mem),
      indexOf?_eq (receiver_mem mem), lower⟩
  · rintro ⟨sender, receiver, text, a, b, statement, index, index', lower⟩
    have mem := List.mem_of_getElem? statement
    cases (indexOf?_eq (sender_mem mem)).symm.trans index
    cases (indexOf?_eq (receiver_mem mem)).symm.trans index'
    refine ⟨_, ⟨_, statement, rfl⟩, ?_⟩
    exact (Statement.isMessageFrom_placement _ _ i).2 ⟨sender, receiver, text, rfl, lower⟩

theorem mem_participants_of_indexOf? {name : String}
    (index : (ofDiagram d).indexOf? name = some i) : d.participants[i]? = some name := by
  obtain ⟨inside, named, _⟩ := List.findIdx?_eq_some_iff_getElem.1 index
  obtain ⟨other, here, column⟩ := columns_getElem?_iff.1 (List.getElem?_eq_getElem inside)
  rw [← column] at named
  rwa [← eq_of_beq named]

theorem found_iff {name : String} : (ofDiagram d).columns[i]? = some c ∧ c.name = name ↔
    (ofDiagram d).indexOf? name = some i ∧ (ofDiagram d).column? name = some c := by
  constructor
  · rintro ⟨column, rfl⟩
    obtain ⟨name, here, rfl⟩ := columns_getElem?_iff.1 column
    obtain ⟨mem, index⟩ := Diagram.participants_getElem?_iff.1 here
    exact ⟨by rw [← index]; exact indexOf?_eq mem, column?_eq here⟩
  · rintro ⟨index, found⟩
    have here := mem_participants_of_indexOf? index
    cases (column?_eq here).symm.trans found
    exact ⟨columns_getElem?_iff.2 ⟨name, here, rfl⟩, rfl⟩

theorem column?_eq_none_iff {l : Layout} {name : String} :
    l.column? name = none ↔ name ∉ l.columns.map Column.name := by
  simp [column?]

theorem mem_flatMap_columns {l : Layout} {f : Column → List Nat} :
    k ∈ l.columns.flatMap f ↔ ∃ (i : Nat) (c : Column), l.columns[i]? = some c ∧ k ∈ f c := by
  rw [List.mem_flatMap]
  constructor
  · rintro ⟨c, mem, filed⟩
    obtain ⟨i, column⟩ := List.mem_iff_getElem?.1 mem
    exact ⟨i, c, column, filed⟩
  · rintro ⟨i, c, column, filed⟩
    exact ⟨c, List.mem_of_getElem? column, filed⟩

/-! Each note and each message is filed in one column only. -/

theorem nodup_notes (d : Diagram) : ((ofDiagram d).columns.flatMap Column.notes).Nodup := by
  refine nodup_flatMap_of_unique (fun c mem => ?_) ?_
  · obtain ⟨i, name, _, rfl⟩ := mem_columns mem
    exact (pairwise_positions _ _).imp Nat.ne_of_lt
  · intro i j c c' k column column' mem mem'
    obtain ⟨_, _, note⟩ := (mem_notes column).1 mem
    obtain ⟨_, _, note'⟩ := (mem_notes column').1 mem'
    have same : c.name = c'.name := by
      rw [note, Option.some.injEq, Statement.note.injEq] at note'
      exact note'.2.1
    have index := (found_iff.1 ⟨column, same⟩).1
    exact Option.some.inj (index.symm.trans (found_iff.1 ⟨column', rfl⟩).1)

theorem nodup_messages (d : Diagram) : ((ofDiagram d).columns.flatMap Column.messages).Nodup := by
  refine nodup_flatMap_of_unique (fun c mem => ?_) ?_
  · obtain ⟨i, name, _, rfl⟩ := mem_columns mem
    exact (pairwise_positions _ _).imp Nat.ne_of_lt
  · intro i j c c' k column column' mem mem'
    obtain ⟨_, _, _, a, b, message, sender, receiver, lower⟩ := (mem_messages column).1 mem
    obtain ⟨_, _, _, a', b', message', sender', receiver', lower'⟩ := (mem_messages column').1 mem'
    rw [message] at message'
    cases message'
    cases sender.symm.trans sender'
    cases receiver.symm.trans receiver'
    exact lower.symm.trans lower'

theorem mem_flatMap_notes : k ∈ (ofDiagram d).columns.flatMap Column.notes ↔
    ∃ side name text, d[k]? = some (.note side name text) := by
  rw [mem_flatMap_columns]
  constructor
  · rintro ⟨i, c, column, filed⟩
    obtain ⟨side, text, note⟩ := (mem_notes column).1 filed
    exact ⟨side, c.name, text, note⟩
  · rintro ⟨side, name, text, note⟩
    have here := List.getElem?_idxOf (participant_mem (List.mem_of_getElem? note))
    have column := columns_getElem?_iff.2 ⟨name, here, rfl⟩
    exact ⟨_, _, column, (mem_notes column).2 ⟨side, text, note⟩⟩

theorem mem_flatMap_messages : k ∈ (ofDiagram d).columns.flatMap Column.messages ↔
    ∃ sender receiver text, d[k]? = some (.message sender receiver text) := by
  rw [mem_flatMap_columns]
  constructor
  · rintro ⟨i, c, column, filed⟩
    obtain ⟨sender, receiver, text, _, _, message, _⟩ := (mem_messages column).1 filed
    exact ⟨sender, receiver, text, message⟩
  · rintro ⟨sender, receiver, text, message⟩
    have mem := List.mem_of_getElem? message
    have sender_here := List.idxOf_lt_length_of_mem (sender_mem mem)
    have lower : min (d.participants.idxOf sender) (d.participants.idxOf receiver) <
        d.participants.length := Nat.lt_of_le_of_lt (Nat.min_le_left _ _) sender_here
    have column := columns_getElem?_iff.2 ⟨_, List.getElem?_eq_getElem lower, rfl⟩
    exact ⟨_, _, column, (mem_messages column).2 ⟨sender, receiver, text, _, _, message,
      indexOf?_eq (sender_mem mem), indexOf?_eq (receiver_mem mem), rfl⟩⟩

theorem placedIn_ofDiagram {s : Statement} (mem : s ∈ d) :
    s.PlacedIn (ofDiagram d) (s.placement d.participants) := by
  cases s with
  | declare _ | space _ => rfl
  | note side participant text => exact ⟨_, indexOf?_eq (participant_mem mem), rfl⟩
  | message sender receiver text =>
      exact ⟨_, _, indexOf?_eq (sender_mem mem), indexOf?_eq (receiver_mem mem), rfl⟩

/-- What a layout knows about the participants of a diagram. Every name that is mentioned has a
column, every note and every message is filed once and in the right column, and all positions are
those of the finished layout. -/
structure Collects (l : Layout) (d : Diagram) : Prop where
  names : l.columns.map Column.name = (d.flatMap Statement.mentions).eraseDups
  mentioned : ∀ name, name ∈ l.columns.map Column.name ↔ ∃ s ∈ d, name ∈ s.mentions
  order : (l.columns.map Column.name).Pairwise fun name name' =>
    (d.flatMap Statement.mentions).idxOf name < (d.flatMap Statement.mentions).idxOf name'
  found : ∀ (i : Nat) (name : String) (c : Column), l.columns[i]? = some c ∧ c.name = name ↔
    l.indexOf? name = some i ∧ l.column? name = some c
  unknown : ∀ name, l.column? name = none ↔ ∀ s ∈ d, name ∉ s.mentions
  notes : ∀ c ∈ l.columns, c.notes.Pairwise (· < ·) ∧
    ∀ k, k ∈ c.notes ↔ ∃ side text, d[k]? = some (.note side c.name text)
  messages : ∀ (i : Nat) (c : Column), l.columns[i]? = some c → c.messages.Pairwise (· < ·) ∧
    ∀ k, k ∈ c.messages ↔ ∃ sender receiver text a b, d[k]? = some (.message sender receiver text) ∧
      l.indexOf? sender = some a ∧ l.indexOf? receiver = some b ∧ min a b = i
  notes_once : (l.columns.flatMap Column.notes).Nodup ∧
    ∀ k, k ∈ l.columns.flatMap Column.notes ↔ ∃ side name text, d[k]? = some (.note side name text)
  messages_once : (l.columns.flatMap Column.messages).Nodup ∧
    ∀ k, k ∈ l.columns.flatMap Column.messages ↔
      ∃ sender receiver text, d[k]? = some (.message sender receiver text)
  placed : ∀ (k : Nat) (s : Statement), d[k]? = some s →
    ∃ band : Band, l.bands[k]? = some band ∧ s.PlacedIn l band.placement

theorem collects_ofDiagram (d : Diagram) : (ofDiagram d).Collects d where
  names := name_columns d
  mentioned name := by
    rw [name_columns, Diagram.participants, List.mem_eraseDups, List.mem_flatMap]
  order := by
    rw [name_columns]
    exact pairwise_idxOf_eraseDups _
  found _ _ _ := found_iff
  unknown name := by
    rw [column?_eq_none_iff, name_columns, Diagram.participants, List.mem_eraseDups,
      List.mem_flatMap]
    simp only [not_exists, not_and]
  notes c mem := by
    obtain ⟨i, column⟩ := List.mem_iff_getElem?.1 mem
    refine ⟨?_, fun k => mem_notes column⟩
    obtain ⟨name, _, rfl⟩ := columns_getElem?_iff.1 column
    exact pairwise_positions _ _
  messages i c column := by
    refine ⟨?_, fun k => mem_messages column⟩
    obtain ⟨name, _, rfl⟩ := columns_getElem?_iff.1 column
    exact pairwise_positions _ _
  notes_once := ⟨nodup_notes d, fun _ => mem_flatMap_notes⟩
  messages_once := ⟨nodup_messages d, fun _ => mem_flatMap_messages⟩
  placed k s here := by
    exact ⟨bandAt d k s, getElem?_bands_eq_some here,
      placedIn_ofDiagram (List.mem_of_getElem? here)⟩

end Layout

/-! Reading one statement after the other. -/

/-- What has been filed under the name of a participant. -/
structure Folder where
  name : String
  notes : List Nat
  messages : List Nat
  deriving DecidableEq, Repr

/-- What is known after some statements: the participants so far, in the order of their first
mention, and what each statement is anchored to. -/
structure Register where
  folders : List Folder
  placements : List Placement
  deriving DecidableEq, Repr

def Layout.register (l : Layout) : Register where
  folders := l.columns.map fun c => ⟨c.name, c.notes, c.messages⟩
  placements := l.bands.map Band.placement

namespace Register

/-- A name that is new gets the next number. -/
def enter (folders : List Folder) (name : String) : List Folder :=
  if name ∈ folders.map Folder.name then folders else folders ++ [⟨name, [], []⟩]

/-- Files the statement at position `k` with its participant, a message with that further left. -/
def file (folders : List Folder) (k : Nat) : Placement → List Folder
  | .declaration | .space => folders
  | .note participant _ => folders.modify participant fun f => { f with notes := f.notes ++ [k] }
  | .message sender receiver =>
    folders.modify (min sender receiver) fun f => { f with messages := f.messages ++ [k] }

/-- Reads one more statement. Its names are entered first, and its placement is decided by the names
known then. -/
def read (r : Register) (s : Statement) : Register :=
  let folders := s.mentions.foldl enter r.folders
  let placement := s.placement (folders.map Folder.name)
  ⟨file folders r.placements.length placement, r.placements ++ [placement]⟩

def ofDiagram (d : Diagram) : Register :=
  d.foldl read ⟨[], []⟩

theorem ofDiagram_concat (d : Diagram) (s : Statement) :
    ofDiagram (d ++ [s]) = (ofDiagram d).read s := by
  simp [ofDiagram, List.foldl_append]

/-- All that is filed under the given names when the statements are placed as given. -/
def foldersOf (names : List String) (ps : List Placement) : List Folder :=
  names.mapIdx fun i name =>
    ⟨name, Layout.positions (·.isNoteAt i) ps, Layout.positions (·.isMessageFrom i) ps⟩

/-- No placement uses a number that is not given yet. -/
def Known (n : Nat) (ps : List Placement) : Prop :=
  ∀ p ∈ ps, ∀ i, n ≤ i → p.isNoteAt i = false ∧ p.isMessageFrom i = false

variable {names : List String} {ps : List Placement}

theorem names_foldersOf (names : List String) (ps : List Placement) :
    (foldersOf names ps).map Folder.name = names := by
  apply List.ext_getElem?
  intro i
  rw [foldersOf, List.getElem?_map, List.getElem?_mapIdx, Option.map_map]
  exact Option.map_id_apply

theorem foldersOf_concat (known : Known names.length ps) (name : String) :
    foldersOf (names ++ [name]) ps = foldersOf names ps ++ [⟨name, [], []⟩] := by
  have no_note := Layout.positions_eq_nil fun p mem => (known p mem _ (Nat.le_refl _)).1
  have no_message := Layout.positions_eq_nil fun p mem => (known p mem _ (Nat.le_refl _)).2
  simp only [foldersOf, List.mapIdx_concat, no_note, no_message]

theorem enter_foldersOf (known : Known names.eraseDups.length ps) (name : String) :
    enter (foldersOf names.eraseDups ps) name = foldersOf (names ++ [name]).eraseDups ps := by
  rw [enter, names_foldersOf, eraseDups_concat]
  by_cases mem : name ∈ names
  · rw [if_pos (List.mem_eraseDups.2 mem), if_pos mem]
  · rw [if_neg (mt List.mem_eraseDups.1 mem), if_neg mem, foldersOf_concat known]

theorem foldl_enter_foldersOf (known : Known names.eraseDups.length ps) (mentions : List String) :
    mentions.foldl enter (foldersOf names.eraseDups ps) =
      foldersOf (names ++ mentions).eraseDups ps := by
  induction mentions generalizing names with
  | nil => rw [List.append_nil, List.foldl_nil]
  | cons name mentions ih =>
      have longer : names.eraseDups.length ≤ (names ++ [name]).eraseDups.length := by
        rw [eraseDups_concat]
        split <;> simp
      rw [List.foldl_cons, enter_foldersOf known,
        ih fun p mem i le => known p mem i (Nat.le_trans longer le), List.append_assoc]
      rfl

theorem file_foldersOf (names : List String) (ps : List Placement) (p : Placement) :
    file (foldersOf names ps) ps.length p = foldersOf names (ps ++ [p]) := by
  apply List.ext_getElem?
  intro i
  simp only [foldersOf, Layout.positions_concat]
  cases p with
  | declaration | space => simp [file, Placement.isNoteAt, Placement.isMessageFrom]
  | note participant side =>
      simp only [file, List.getElem?_modify, List.getElem?_mapIdx, Placement.isNoteAt,
        Placement.isMessageFrom, beq_iff_eq]
      cases names[i]? <;> by_cases here : participant = i <;> simp [here]
  | message sender receiver =>
      simp only [file, List.getElem?_modify, List.getElem?_mapIdx, Placement.isNoteAt,
        Placement.isMessageFrom, beq_iff_eq]
      cases names[i]? <;> by_cases here : min sender receiver = i <;> simp [here]

/-- One step: the names grow by those of the statement, and the placements by its own. -/
theorem read_foldersOf (known : Known names.eraseDups.length ps) (s : Statement) :
    let names' := (names ++ s.mentions).eraseDups
    let ps' := ps ++ [s.placement names']
    read ⟨foldersOf names.eraseDups ps, ps⟩ s = ⟨foldersOf names' ps', ps'⟩ := by
  intro names' ps'
  simp only [read, foldl_enter_foldersOf known, names_foldersOf, file_foldersOf]
  rfl

theorem known_placements (d : Diagram) :
    Known d.participants.length (d.map (Statement.placement d.participants)) := by
  intro p placed i outside
  obtain ⟨s, mem, rfl⟩ := List.mem_map.1 placed
  cases s with
  | declare _ | space _ => exact ⟨rfl, rfl⟩
  | note side participant text =>
      have inside := List.idxOf_lt_length_of_mem (Layout.participant_mem mem)
      exact ⟨beq_eq_false_iff_ne.2 (by omega), rfl⟩
  | message sender receiver text =>
      have inside := List.idxOf_lt_length_of_mem (Layout.sender_mem mem)
      exact ⟨rfl, beq_eq_false_iff_ne.2 (by omega)⟩

/-- A whole run. By induction on the last statement: the placements of those before it were decided
by fewer names, and they are the ones that all names decide. -/
theorem ofDiagram_eq (d : Diagram) : ofDiagram d =
    ⟨foldersOf d.participants (d.map (Statement.placement d.participants)),
      d.map (Statement.placement d.participants)⟩ := by
  induction d using List.reverseRecOn with
  | nil => rfl
  | append_singleton d s ih =>
      have names : Diagram.participants (d ++ [s]) =
          (d.flatMap Statement.mentions ++ s.mentions).eraseDups := by
        rw [Diagram.participants, List.flatMap_append, List.flatMap_singleton]
      rw [ofDiagram_concat, ih, List.map_append, Layout.map_placement_append, List.map_singleton,
        names]
      exact read_foldersOf (known_placements d) s

theorem register_eq (d : Diagram) : (Layout.ofDiagram d).register =
    ⟨foldersOf d.participants (d.map (Statement.placement d.participants)),
      d.map (Statement.placement d.participants)⟩ := by
  rw [Layout.register, Register.mk.injEq]
  constructor
  · apply List.ext_getElem?
    intro i
    rw [List.getElem?_map, Layout.getElem?_columns, foldersOf, List.getElem?_mapIdx,
      Option.map_map]
    rfl
  · apply List.ext_getElem?
    intro i
    rw [List.getElem?_map, Layout.getElem?_bands, List.getElem?_map, Option.map_map]
    rfl

end Register

/-- The layout of a diagram knows all that is said about its participants, and so does, at its end,
the reader that decides on each statement at once. -/
theorem participants_collected (d : Diagram) :
    (Layout.ofDiagram d).Collects d ∧ Register.ofDiagram d = (Layout.ofDiagram d).register :=
  ⟨Layout.collects_ofDiagram d, (Register.ofDiagram_eq d).trans (Register.register_eq d).symm⟩

end SequenceChart
