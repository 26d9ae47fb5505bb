import SequenceChart.CommandLine.FileTree

/-!
A file tree is a lawful file system. Whatever exists stands below directories that exist; so a write
that succeeds changes the node that the name leads to and no other. A workspace is a lawful host.
-/

namespace SequenceChart.CommandLine

namespace FileTree

variable {t t' : FileTree} {p q : Path} {name : String} {content : ByteArray} {access : Access}

/-! One node. -/

theorem lookup_filter_of_ne (ne : q ≠ p) (nodes : List (Path × Node)) :
    (nodes.filter (·.1 != p)).lookup q = nodes.lookup q := by
  induction nodes with
  | nil => rfl
  | cons n nodes ih =>
      by_cases here : n.1 = p
      · have other : (q == n.1) = false := by simpa [here] using ne
        rw [List.filter_cons_of_neg (by simp [here]), ih, List.lookup_cons, other]
      · rw [List.filter_cons_of_pos (by simp [here]), List.lookup_cons, List.lookup_cons, ih]

/-- What is not listed is a directory if something stands below it. -/
theorem node?_of_unlisted (unlisted : t.nodes.lookup q = none) : t.node? q =
    if q = [] ∨ t.nodes.any (fun n => q.isPrefixOf n.1) = true then some (.directory {})
    else none := by
  rw [node?, unlisted]

theorem node?_ne_none_iff : t.node? q ≠ none ↔ q = [] ∨ ∃ n ∈ t.nodes, q <+: n.1 := by
  cases listed : t.nodes.lookup q with
  | some node =>
      have mem : ∃ n ∈ t.nodes, q <+: n.1 := by
        obtain ⟨before, after, split, _⟩ := List.lookup_eq_some_iff.1 listed
        exact ⟨(q, node), by simp [split], List.prefix_rfl⟩
      simp [node?, listed, mem]
  | none =>
      simp only [node?_of_unlisted listed, ne_eq, ite_eq_right_iff, reduceCtorEq, imp_false,
        Decidable.not_not, List.any_eq_true, List.isPrefixOf_iff_prefix]

/-- Whatever exists stands below directories that exist. -/
theorem node?_ne_none_of_prefix (above : q <+: p) (found : t.node? p ≠ none) :
    t.node? q ≠ none := by
  rw [node?_ne_none_iff] at found ⊢
  obtain rfl | ⟨n, mem, below⟩ := found
  · exact .inl (List.prefix_nil.1 above)
  · exact .inr ⟨n, mem, above.trans below⟩

theorem node?_insert_self (t : FileTree) (p : Path) (content : ByteArray) (access : Access) :
    (t.insert p content access).node? p = some (.file content access) := by
  rw [node?, insert, List.lookup_cons_self]

/-- A directory need not be listed, so a new file is of concern to the nodes above it. -/
theorem node?_insert_of_ne (ne : q ≠ p) (above : q <+: p → t.node? q ≠ none) :
    (t.insert p content access).node? q = t.node? q := by
  have other : (q == p) = false := by simpa using ne
  have listed : (t.insert p content access).nodes.lookup q = t.nodes.lookup q := by
    rw [insert, List.lookup_cons, other]
    exact lookup_filter_of_ne ne t.nodes
  cases found : t.nodes.lookup q with
  | some node => rw [node?, node?, listed, found]
  | none =>
      rw [node?_of_unlisted (listed.trans found), insert, List.any_cons, List.any_filter]
      by_cases below : q <+: p
      · have there := node?_ne_none_iff.1 (above below)
        rw [node?_of_unlisted found, if_pos (.inr (by simp [below])), if_pos (by simpa using there)]
      · have apart : q.isPrefixOf p = false := by
          rwa [← Bool.not_eq_true, List.isPrefixOf_iff_prefix]
        have kept : (fun n : Path × Node => n.1 != p && q.isPrefixOf n.1) =
            fun n => q.isPrefixOf n.1 := by
          funext n
          by_cases here : n.1 = p
          · rw [here, apart, Bool.and_false]
          · rw [bne_iff_ne.2 here, Bool.true_and]
        rw [node?_of_unlisted found, apart, Bool.false_or, kept]

/-! Files. -/

/-- Everything above a file that can be written is there: either the file is, or its directory. -/
theorem node?_above_ne_none (taken : t.writtenAccess p = .ok access) (ne : q ≠ p)
    (above : q <+: p) : t.node? q ≠ none := by
  rw [writtenAccess] at taken
  split at taken
  · contradiction
  · next here => exact node?_ne_none_of_prefix above (by simp [here])
  · split at taken
    · next here =>
        refine node?_ne_none_of_prefix (p := p.dropLast) ?_ (by simp [here])
        rcases List.eq_nil_or_concat p with rfl | ⟨front, last, rfl⟩
        · exact (ne (List.prefix_nil.1 above)).elim
        · rw [List.concat_eq_append] at ne above ⊢
          rw [List.dropLast_concat]
          exact (List.prefix_concat_iff.1 above).resolve_left ne
    · contradiction
    · contradiction

theorem write_eq_ok (written : t.write name content = .ok t') : ∃ p access,
    t.locate name = .ok p ∧ t.writtenAccess p = .ok access ∧ t' = t.insert p content access := by
  rw [write] at written
  cases located : t.locate name with
  | error e =>
      rw [located] at written
      contradiction
  | ok p =>
      rw [located] at written
      simp only [bind, Except.bind] at written
      split at written
      · contradiction
      · cases taken : t.writtenAccess p with
        | error e =>
            rw [taken] at written
            contradiction
        | ok access =>
            rw [taken] at written
            cases written
            exact ⟨p, access, rfl, taken, rfl⟩

/-- The content of the file at a path. -/
def content? (t : FileTree) (p : Path) : Option ByteArray :=
  match t.node? p with
  | some (.file content _) => some content
  | some (.directory _) | none => none

theorem content?_of_read (read : t.read name = .ok content) :
    ∃ p, t.locate name = .ok p ∧ t.content? p = some content := by
  rw [FileTree.read] at read
  cases located : t.locate name with
  | error e =>
      rw [located] at read
      contradiction
  | ok p =>
      rw [located] at read
      simp only [bind, Except.bind] at read
      split at read
      · contradiction
      · split at read <;> contradiction
      · next here =>
          refine ⟨p, rfl, ?_⟩
          split at read
          · contradiction
          · split at read
            · cases read
              rw [content?, here]
            · contradiction

/-- A file that was written has the new content, and no other file has changed. -/
theorem content?_of_write (written : t.write name content = .ok t') :
    ∃ p, t.locate name = .ok p ∧ t'.content? p = some content ∧
      ∀ q, q ≠ p → t'.content? q = t.content? q := by
  obtain ⟨p, access, located, taken, rfl⟩ := write_eq_ok written
  refine ⟨p, located, ?_, fun q ne => ?_⟩
  · rw [content?, node?_insert_self]
  · rw [content?, content?, node?_insert_of_ne ne (node?_above_ne_none taken ne)]

instance : FileSystem FileTree where
  Place := Path
  place? t name := (t.locate name).toOption
  content? := content?
  read t name := (t.read name).bind decodeUtf8
  write t name text := t.write name text.toUTF8
  of_read {t name text} read := by
    cases bytes : t.read name with
    | error e =>
        rw [bytes] at read
        contradiction
    | ok content =>
        obtain ⟨p, located, found⟩ := content?_of_read bytes
        rw [bytes] at read
        exact ⟨p, content, by rw [located]; rfl, found, read⟩
  of_write written := by
    obtain ⟨p, located, found, others⟩ := content?_of_write written
    exact ⟨p, by rw [located]; rfl, found, others⟩

end FileTree

namespace Workspace

theorem writeFile_run (path document : String) (w : Workspace) :
    (Host.writeFile path document : StateM Workspace _).run w =
      match w.files.write path document.toUTF8 with
      | .ok files => (.ok (), { w with files := files })
      | .error e => (.error e, w) := by
  change StateT.run (get >>= fun w => _) w = _
  rw [StateT.run_bind]
  change StateT.run (match w.files.write path document.toUTF8 with
    | .ok files => _
    | .error e => _) w = _
  cases w.files.write path document.toUTF8 <;> rfl

instance : LawfulHost (StateM Workspace) Workspace FileTree where
  exec x w := x.run w
  view w := ⟨decodeUtf8 w.stdin, w.files⟩
  exec_pure _ _ := rfl
  exec_bind _ _ _ := rfl
  readStdin_result _ := rfl
  readStdin_files _ := rfl
  readStdin_view _ := rfl
  readFile_result _ _ := rfl
  readFile_view _ _ := rfl
  writeFile_ok {w name text files} written := by
    replace written : w.files.write name text.toUTF8 = .ok files := written
    rw [writeFile_run, written]
    exact ⟨rfl, rfl⟩
  writeFile_error {w name text e} refused := by
    replace refused : w.files.write name text.toUTF8 = .error e := refused
    rw [writeFile_run, refused]
    exact ⟨rfl, rfl⟩
  log_view _ _ := rfl

end Workspace

end SequenceChart.CommandLine
