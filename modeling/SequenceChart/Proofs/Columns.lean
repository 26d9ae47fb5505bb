import Mathlib.Data.List.Induction
import Mathlib.Data.List.Nodup
import Mathlib.Order.MinMax
import SequenceChart.Chart
import SequenceChart.Layout.OfDiagram

/-!
Where the participants of a diagram stand. The lifelines keep every clearance that the diagram
demands, and the first one leaves room for what stands to its left; from these two facts follow
all bounds on boxes, notes, messages and loops that drawing relies on.
-/

namespace SequenceChart

section

variable {α : Type} [LinearOrder α] {xs : List α} {m x : α}

theorem foldr_max_le_iff {a : α} : xs.foldr max a ≤ m ↔ a ≤ m ∧ ∀ x ∈ xs, x ≤ m := by
  induction xs with
  | nil => simp
  | cons x xs ih =>
      rw [List.foldr_cons, max_le_iff, ih, List.forall_mem_cons]
      exact and_left_comm

theorem start_le_foldr_max (xs : List α) (a : α) : a ≤ xs.foldr max a :=
  (foldr_max_le_iff.1 (le_refl _)).1

theorem le_foldr_max (mem : x ∈ xs) (a : α) : x ≤ xs.foldr max a :=
  (foldr_max_le_iff.1 (le_refl _)).2 x mem

/-- A maximum is one of those that it is taken of. -/
theorem foldr_max_cases (xs : List α) (a : α) : xs.foldr max a = a ∨ xs.foldr max a ∈ xs := by
  induction xs with
  | nil => exact .inl rfl
  | cons x xs ih =>
      rw [List.foldr_cons]
      rcases le_total (xs.foldr max a) x with le | le
      · rw [max_eq_left le]
        exact .inr List.mem_cons_self
      · rw [max_eq_right le]
        exact ih.imp_right (List.mem_cons_of_mem x)

end

namespace Clearance

variable {first : Nat} {cs : List Clearance}

/-- The lifeline of the participant at a position, placed after all those before it. -/
def placeAt (first : Nat) (cs : List Clearance) (i : Nat) : Nat :=
  nextLifeline first cs (lifelines first cs i)

theorem lifelines_eq_map (first : Nat) (cs : List Clearance) (n : Nat) :
    lifelines first cs n = (List.range n).map (placeAt first cs) := by
  induction n with
  | zero => rfl
  | succ n ih =>
      rw [List.range_succ, List.map_append, ← ih]
      rfl

theorem placeAt_of_unbound {i : Nat} (unbound : ∀ c ∈ cs, c.after ≠ i) :
    placeAt first cs i = first := by
  have none_here : cs.filter (·.after = (lifelines first cs i).length) = [] := by
    simpa [lifelines_eq_map] using unbound
  rw [placeAt, nextLifeline, none_here]
  rfl

/-- Lifelines keep the clearances between them. -/
theorem placeAt_add_le {c : Clearance} (mem : c ∈ cs) (forward : c.before < c.after) :
    placeAt first cs c.before + c.distance ≤ placeAt first cs c.after := by
  have placed : (lifelines first cs c.after)[c.before]? = some (placeAt first cs c.before) := by
    rw [lifelines_eq_map, List.getElem?_map, List.getElem?_range forward]
    rfl
  have bound : ((lifelines first cs c.after)[c.before]?).getD 0 + c.distance ≤
      placeAt first cs c.after := by
    apply le_foldr_max
    refine List.mem_map.2 ⟨c, List.mem_filter.2 ⟨mem, ?_⟩, rfl⟩
    simp [lifelines_eq_map]
  rwa [placed] at bound

/-- Every clearance that a diagram demands reaches from a participant to a later one. -/
theorem before_lt_after {names : List String} {d : Diagram} {c : Clearance}
    (mem : c ∈ ofDiagram names d) : c.before < c.after := by
  rcases List.mem_append.1 mem with box | demand
  · obtain ⟨i, _, rfl⟩ := List.mem_map.1 box
    exact Nat.lt_succ_self i
  · obtain ⟨s, _, of_s⟩ := List.mem_flatMap.1 demand
    cases s with
    | declare _ | space _ => contradiction
    | message sender receiver text =>
        cases List.mem_singleton.1 of_s
        dsimp only
        split <;> omega
    | note side participant text =>
        cases side with
        | left =>
            simp only [ofStatement] at of_s
            split at of_s
            · contradiction
            · cases List.mem_singleton.1 of_s
              exact Nat.lt_succ_self _
        | right =>
            cases List.mem_singleton.1 of_s
            exact Nat.lt_succ_self _

end Clearance

theorem eraseDups_concat (names : List String) (name : String) :
    (names ++ [name]).eraseDups =
      if name ∈ names then names.eraseDups else names.eraseDups ++ [name] := by
  rw [List.eraseDups_append]
  by_cases mem : name ∈ names <;> simp [List.removeAll, mem, List.eraseDups_cons]

/-- Of repeated names the first one stays in its place. -/
theorem pairwise_idxOf_eraseDups (names : List String) :
    names.eraseDups.Pairwise fun name name' => names.idxOf name < names.idxOf name' := by
  induction names using List.reverseRecOn with
  | nil => exact .nil
  | append_singleton names last ih =>
      have kept : names.eraseDups.Pairwise fun name name' =>
          (names ++ [last]).idxOf name < (names ++ [last]).idxOf name' := by
        refine ih.imp_of_mem fun mem mem' before => ?_
        rwa [List.idxOf_append_of_mem (List.mem_eraseDups.1 mem),
          List.idxOf_append_of_mem (List.mem_eraseDups.1 mem')]
      rw [eraseDups_concat]
      split
      · exact kept
      · next new =>
          refine List.pairwise_append.2 ⟨kept, List.pairwise_singleton _ _, ?_⟩
          intro name mem name' is_last
          have mem := List.mem_eraseDups.1 mem
          rw [List.mem_singleton.1 is_last, List.idxOf_append_of_mem mem,
            List.idxOf_append_of_notMem new]
          exact Nat.lt_add_right _ (List.idxOf_lt_length_of_mem mem)

theorem nodup_eraseDups (names : List String) : names.eraseDups.Nodup :=
  (pairwise_idxOf_eraseDups names).imp fun before same => by
    rw [same] at before
    exact Nat.lt_irrefl _ before

namespace Diagram

theorem nodup_participants (d : Diagram) : d.participants.Nodup :=
  nodup_eraseDups _

theorem mem_participants {d : Diagram} {s : Statement} {name : String} (mem : s ∈ d)
    (mentioned : name ∈ s.mentions) : name ∈ d.participants :=
  List.mem_eraseDups.2 (List.mem_flatMap.2 ⟨s, mem, mentioned⟩)

/-- A participant stands at its first position among the participants and at no other. -/
theorem participants_getElem?_iff {d : Diagram} {name : String} {i : Nat} :
    d.participants[i]? = some name ↔ name ∈ d.participants ∧ d.participants.idxOf name = i := by
  constructor
  · intro here
    obtain ⟨h, rfl⟩ := List.getElem?_eq_some_iff.1 here
    exact ⟨List.getElem_mem h, d.nodup_participants.idxOf_getElem i h⟩
  · rintro ⟨mem, rfl⟩
    exact List.getElem?_idxOf mem

end Diagram

namespace Layout

variable {d : Diagram} {i : Nat} {name sender receiver participant text : String}

/-- The column of the lifeline of the participant at a position. -/
def lifelineAt (d : Diagram) (i : Nat) : Nat :=
  Clearance.placeAt (((d.participants.head?).map (leftReach d)).getD 0)
    (Clearance.ofDiagram d.participants d) i

theorem lifelines_eq (d : Diagram) :
    lifelines d = (List.range d.participants.length).map (lifelineAt d) :=
  Clearance.lifelines_eq_map _ _ _

theorem lifelineAt_add_le {j distance : Nat}
    (mem : ⟨i, j, distance⟩ ∈ Clearance.ofDiagram d.participants d) :
    lifelineAt d i + distance ≤ lifelineAt d j :=
  Clearance.placeAt_add_le mem (Clearance.before_lt_after mem)

/-! What a single clearance says. -/

theorem clear_of_boxes (h : i + 1 < d.participants.length) :
    lifelineAt d i + (Clearance.halfAt d.participants i + 2 +
      Clearance.halfAt d.participants (i + 1)) ≤ lifelineAt d (i + 1) :=
  lifelineAt_add_le (List.mem_append_left _
    (List.mem_map.2 ⟨i, List.mem_range.2 (by omega), rfl⟩))

theorem clear_of_statement {s : Statement} {j distance : Nat} (mem : s ∈ d)
    (demand : ⟨i, j, distance⟩ ∈ Clearance.ofStatement d.participants s) :
    lifelineAt d i + distance ≤ lifelineAt d j :=
  lifelineAt_add_le (List.mem_append_right _ (List.mem_flatMap.2 ⟨s, mem, demand⟩))

theorem clear_of_leftNote (mem : .note .left participant text ∈ d)
    (h : d.participants.idxOf participant = i + 1) :
    lifelineAt d i + (noteWidth text + 2) ≤ lifelineAt d (i + 1) := by
  have demand : ⟨i, i + 1, noteWidth text + 2⟩ ∈
      Clearance.ofStatement d.participants (.note .left participant text) := by
    simp only [Clearance.ofStatement, h, List.mem_singleton]
  exact clear_of_statement mem demand

theorem clear_of_rightNote (mem : .note .right participant text ∈ d)
    (h : d.participants.idxOf participant = i) :
    lifelineAt d i + (noteWidth text + 1 + Clearance.halfAt d.participants (i + 1)) ≤
      lifelineAt d (i + 1) := by
  subst h
  exact clear_of_statement mem (List.mem_singleton.2 rfl)

theorem clear_of_selfMessage (mem : .message sender receiver text ∈ d)
    (hs : d.participants.idxOf sender = i) (hr : d.participants.idxOf receiver = i) :
    lifelineAt d i + (messageWidth text + 1 + Clearance.halfAt d.participants (i + 1)) ≤
      lifelineAt d (i + 1) := by
  have demand : ⟨i, i + 1, messageWidth text + 1 + Clearance.halfAt d.participants (i + 1)⟩ ∈
      Clearance.ofStatement d.participants (.message sender receiver text) := by
    simp only [Clearance.ofStatement, hs, hr, if_true, Nat.min_self, List.mem_singleton]
  exact clear_of_statement mem demand

theorem clear_of_message (mem : .message sender receiver text ∈ d) {j k : Nat} (apart : j < k)
    (ends : d.participants.idxOf sender = j ∧ d.participants.idxOf receiver = k ∨
      d.participants.idxOf sender = k ∧ d.participants.idxOf receiver = j) :
    lifelineAt d j + (messageWidth text + 1 + Clearance.halfAt d.participants k) ≤
      lifelineAt d k := by
  have demand : ⟨j, k, messageWidth text + 1 + Clearance.halfAt d.participants k⟩ ∈
      Clearance.ofStatement d.participants (.message sender receiver text) := by
    rcases ends with ⟨hs, hr⟩ | ⟨hs, hr⟩
    · simp only [Clearance.ofStatement, hs, hr, Nat.ne_of_lt apart, if_false,
        Nat.min_eq_left (Nat.le_of_lt apart), Nat.max_eq_right (Nat.le_of_lt apart),
        List.mem_singleton]
    · simp only [Clearance.ofStatement, hs, hr, Nat.ne_of_gt apart, if_false,
        Nat.min_eq_right (Nat.le_of_lt apart), Nat.max_eq_left (Nat.le_of_lt apart),
        List.mem_singleton]
  exact clear_of_statement mem demand

/-- Boxes keep a free column between them, also where they are not neighbours. -/
theorem clear_of_lt {i j : Nat} (before : i < j) (h : j < d.participants.length) :
    lifelineAt d i + (Clearance.halfAt d.participants i + 2 +
      Clearance.halfAt d.participants j) ≤ lifelineAt d j := by
  induction j with
  | zero => contradiction
  | succ j ih =>
      have near := clear_of_boxes h
      rcases Nat.lt_or_eq_of_le (Nat.le_of_lt_succ before) with far | rfl
      · have := ih far (by omega)
        omega
      · exact near

theorem lifelineAt_lt {i j : Nat} (before : i < j) (h : j < d.participants.length) :
    lifelineAt d i < lifelineAt d j := by
  have := clear_of_lt before h
  omega

theorem lifelineAt_le {i j : Nat} (before : i ≤ j) (h : j < d.participants.length) :
    lifelineAt d i ≤ lifelineAt d j := by
  rcases Nat.lt_or_eq_of_le before with before | rfl
  · exact Nat.le_of_lt (lifelineAt_lt before h)
  · exact Nat.le_refl _

/-! What a participant reaches to either side. -/

theorem leftReach_le_iff {reach : Nat} : leftReach d name ≤ reach ↔
    halfBox name ≤ reach ∧ ∀ text, .note .left name text ∈ d → noteWidth text + 1 ≤ reach := by
  rw [leftReach, foldr_max_le_iff, List.forall_mem_map]
  refine and_congr_right fun _ => ⟨fun each text mem => ?_, fun notes s mem => ?_⟩
  · simpa only [Statement.reachLeft, if_true] using each _ mem
  · cases s with
    | declare _ | space _ | message _ _ _ => exact Nat.zero_le _
    | note side participant text =>
        cases side with
        | right => exact Nat.zero_le _
        | left =>
            simp only [Statement.reachLeft]
            split
            · next same => exact notes text (same ▸ mem)
            · exact Nat.zero_le _

theorem rightReach_le_iff {reach : Nat} : rightReach d name ≤ reach ↔ halfBox name < reach ∧
    (∀ text, .note .right name text ∈ d → noteWidth text + 2 ≤ reach) ∧
    ∀ text, .message name name text ∈ d → messageWidth text + 1 ≤ reach := by
  rw [rightReach, foldr_max_le_iff, List.forall_mem_map]
  refine and_congr_right fun _ => ⟨fun each => ⟨?_, ?_⟩, ?_⟩
  · intro text mem
    simpa only [Statement.reachRight, if_true] using each _ mem
  · intro text mem
    simpa only [Statement.reachRight, and_self, if_true] using each _ mem
  · rintro ⟨notes, loops⟩ s mem
    cases s with
    | declare _ | space _ => exact Nat.zero_le _
    | message sender receiver text =>
        simp only [Statement.reachRight]
        split
        · next same =>
            obtain ⟨rfl, rfl⟩ := same
            exact loops text mem
        · exact Nat.zero_le _
    | note side participant text =>
        cases side with
        | left => exact Nat.zero_le _
        | right =>
            simp only [Statement.reachRight]
            split
            · next same => exact notes text (same ▸ mem)
            · exact Nat.zero_le _

theorem halfBox_le_leftReach (d : Diagram) (name : String) : halfBox name ≤ leftReach d name :=
  (leftReach_le_iff.1 (Nat.le_refl _)).1

theorem halfBox_lt_rightReach (d : Diagram) (name : String) : halfBox name < rightReach d name :=
  (rightReach_le_iff.1 (Nat.le_refl _)).1

theorem leftNote_le_leftReach (mem : .note .left name text ∈ d) :
    noteWidth text + 1 ≤ leftReach d name :=
  (leftReach_le_iff.1 (Nat.le_refl _)).2 text mem

theorem rightNote_le_rightReach (mem : .note .right name text ∈ d) :
    noteWidth text + 2 ≤ rightReach d name :=
  (rightReach_le_iff.1 (Nat.le_refl _)).2.1 text mem

theorem selfMessage_le_rightReach (mem : .message name name text ∈ d) :
    messageWidth text + 1 ≤ rightReach d name :=
  (rightReach_le_iff.1 (Nat.le_refl _)).2.2 text mem

theorem half_boxWidth (name : String) : (boxWidth name - 1) / 2 = halfBox name := by
  rw [boxWidth]
  omega

theorem halfAt_eq (here : d.participants[i]? = some name) :
    Clearance.halfAt d.participants i = halfBox name := by
  rw [Clearance.halfAt, here]
  rfl

theorem two_le_halfAt (h : i < d.participants.length) :
    2 ≤ Clearance.halfAt d.participants i := by
  rw [halfAt_eq (List.getElem?_eq_getElem h)]
  exact Nat.le_add_left 2 _

/-- No clearance binds the first lifeline. -/
theorem lifelineAt_zero (d : Diagram) :
    lifelineAt d 0 = ((d.participants.head?).map (leftReach d)).getD 0 :=
  Clearance.placeAt_of_unbound fun _ mem =>
    Nat.ne_of_gt (Nat.zero_lt_of_lt (Clearance.before_lt_after mem))

/-- Every lifeline leaves room for what stands to its left. For the first one this is how it is
placed; a later one keeps its distance from the one before. -/
theorem leftReach_le_lifelineAt (here : d.participants[i]? = some name) :
    leftReach d name ≤ lifelineAt d i := by
  cases i with
  | zero =>
      rw [lifelineAt_zero, List.head?_eq_getElem?, here]
      exact Nat.le_refl _
  | succ i =>
      obtain ⟨inside, _⟩ := List.getElem?_eq_some_iff.1 here
      have box := clear_of_boxes inside
      rw [halfAt_eq here] at box
      refine leftReach_le_iff.2 ⟨by omega, ?_⟩
      intro text mem
      have note := clear_of_leftNote mem (Diagram.participants_getElem?_iff.1 here).2
      omega

/-! The columns of the layout. -/

theorem getElem?_columns (d : Diagram) (i : Nat) :
    (ofDiagram d).columns[i]? = (d.participants[i]?).map fun name =>
      columnOf d (d.map (Statement.placement d.participants)) i name (lifelineAt d i) := by
  simp only [ofDiagram, columnsOf, List.getElem?_map, List.getElem?_zipIdx, List.zip,
    List.getElem?_zipWith, lifelines_eq]
  cases here : d.participants[i]? with
  | none => rfl
  | some name =>
      obtain ⟨inside, _⟩ := List.getElem?_eq_some_iff.1 here
      simp only [List.getElem?_range inside, Option.map_some, Nat.zero_add]

theorem rightReach_le_width (here : d.participants[i]? = some name) :
    lifelineAt d i + rightReach d name ≤ (ofDiagram d).width := by
  have column := getElem?_columns d i
  rw [here] at column
  exact le_foldr_max (List.mem_map_of_mem (f := Column.spanStop) (List.mem_of_getElem? column)) 0

/-- A participant is found under its name. -/
theorem column?_eq (here : d.participants[i]? = some name) :
    (ofDiagram d).column? name =
      some (columnOf d (d.map (Statement.placement d.participants)) i name (lifelineAt d i)) := by
  have column := getElem?_columns d i
  rw [here] at column
  obtain ⟨inside, at_i⟩ := List.getElem?_eq_some_iff.1 column
  refine List.find?_eq_some_iff_getElem.2 ⟨beq_self_eq_true name, i, inside, at_i, ?_⟩
  intro j before
  have earlier := getElem?_columns d j
  rw [List.getElem?_eq_getElem (by omega)] at earlier
  cases there : d.participants[j]? with
  | none => simp [there] at earlier
  | some other =>
      rw [there, Option.map_some, Option.some.injEq] at earlier
      rw [earlier]
      have differs : other ≠ name := by
        rintro rfl
        have := (Diagram.participants_getElem?_iff.1 here).2
        have := (Diagram.participants_getElem?_iff.1 there).2
        omega
      simpa [columnOf] using differs

theorem lifelineOf?_eq (mem : name ∈ d.participants) :
    (ofDiagram d).lifelineOf? name = some (lifelineAt d (d.participants.idxOf name)) := by
  rw [lifelineOf?, column?_eq (Diagram.participants_getElem?_iff.2 ⟨mem, rfl⟩)]
  rfl

end Layout

end SequenceChart
