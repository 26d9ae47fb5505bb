/-!
A text as the list of its lines. Only a line feed ends a line, and `joinLines` undoes
`splitLines`.
-/

namespace SequenceChart.Text

/-- The pieces of a text between its line feeds. The empty text is one empty line. -/
def splitLines (s : String) : List String :=
  (s.toList.splitOn '\n').map String.ofList

def joinLines (lines : List String) : String :=
  "\n".intercalate lines

theorem joinLines_splitLines (s : String) : joinLines (splitLines s) = s := by
  apply String.toList_injective
  have toList_ofList : (fun cs : List Char => (String.ofList cs).toList) = id := by
    funext cs; exact String.toList_ofList
  simp only [joinLines, splitLines, String.toList_intercalate, List.map_map,
    Function.comp_def, toList_ofList, List.map_id]
  exact List.intercalate_splitOn '\n'

theorem mem_of_mem_splitOn {cs piece : List Char} {sep c : Char} (part : piece ∈ cs.splitOn sep)
    (mem : c ∈ piece) : c ∈ cs ∧ c ≠ sep := by
  induction cs generalizing piece with
  | nil =>
    cases List.mem_singleton.1 part
    contradiction
  | cons first cs ih =>
    rw [List.splitOn_cons_eq_if_modifyHead] at part
    split at part
    case isTrue =>
      cases List.mem_cons.1 part with
      | inl empty =>
        rw [empty] at mem
        contradiction
      | inr later => exact (ih later mem).imp_left (List.mem_cons_of_mem first)
    case isFalse other =>
      cases pieces : cs.splitOn sep with
      | nil => exact (List.splitOn_ne_nil sep cs pieces).elim
      | cons head tail =>
        rw [pieces] at ih part
        cases List.mem_cons.1 part with
        | inr later =>
          exact (ih (List.mem_cons_of_mem head later) mem).imp_left (List.mem_cons_of_mem first)
        | inl same =>
          rw [same] at mem
          cases List.mem_cons.1 mem with
          | inr later => exact (ih List.mem_cons_self later).imp_left (List.mem_cons_of_mem first)
          | inl here =>
            rw [here]
            exact ⟨List.mem_cons_self, by simpa using other⟩

/-- Lines hold characters of the text, and no line feed. -/
theorem mem_of_mem_splitLines {s line : String} {c : Char} (part : line ∈ splitLines s)
    (mem : c ∈ line.toList) : c ∈ s.toList ∧ c ≠ '\n' := by
  obtain ⟨cs, piece, rfl⟩ := List.mem_map.1 part
  rw [String.toList_ofList] at mem
  exact mem_of_mem_splitOn piece mem

end SequenceChart.Text
