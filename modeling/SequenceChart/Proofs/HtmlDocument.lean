import SequenceChart.Document.Html

/-!
What stands between the tags of an HTML document. Nothing in it can be taken for markup, and reading
its entities from left to right gives the text back, also where the text itself spells an entity.
-/

namespace SequenceChart.Document

/-- The entities that are written. -/
def entities : List String := ["&amp;", "&lt;", "&gt;"]

/-- Replaces entities from left to right and leaves everything else as it is. -/
def decodeEntities : List Char → List Char
  | '&' :: 'a' :: 'm' :: 'p' :: ';' :: cs => '&' :: decodeEntities cs
  | '&' :: 'l' :: 't' :: ';' :: cs => '<' :: decodeEntities cs
  | '&' :: 'g' :: 't' :: ';' :: cs => '>' :: decodeEntities cs
  | c :: cs => c :: decodeEntities cs
  | [] => []

/-- Nothing here is markup: no tag starts or ends, and an ampersand is the start of an entity. -/
structure Escaped (cs : List Char) : Prop where
  no_start : '<' ∉ cs
  no_end : '>' ∉ cs
  entity : ∀ rest, '&' :: rest <:+ cs → ∃ entity ∈ entities, entity.toList <+: '&' :: rest

variable {c : Char} {cs rest : List Char}

/-- A character is written as an entity, or else it stands for itself. -/
theorem htmlChar_cases (c : Char) :
    (∃ entity ∈ entities, htmlChar c = entity.toList) ∨
      htmlChar c = [c] ∧ c ≠ '&' ∧ c ≠ '<' ∧ c ≠ '>' := by
  unfold htmlChar
  split
  case h_1 => exact .inl ⟨"&amp;", by decide, rfl⟩
  case h_2 => exact .inl ⟨"&lt;", by decide, rfl⟩
  case h_3 => exact .inl ⟨"&gt;", by decide, rfl⟩
  case h_4 no_amp no_lt no_gt => exact .inr ⟨rfl, no_amp, no_lt, no_gt⟩

/-! Markup. -/

/-- A suffix starts behind all characters that it cannot start with. -/
theorem suffix_of_not_mem {xs : List Char} (other : c ∉ xs) (suffix : c :: rest <:+ xs ++ cs) :
    c :: rest <:+ cs := by
  induction xs with
  | nil => exact suffix
  | cons x xs ih =>
      cases List.suffix_cons_iff.1 suffix with
      | inl here => exact (List.ne_of_not_mem_cons other (List.cons.inj here).1).elim
      | inr later => exact ih (List.not_mem_of_not_mem_cons other) later

theorem ampersand_of_mem_entities {entity : String} (known : entity ∈ entities) :
    ∃ name, entity.toList = '&' :: name ∧ '&' ∉ name ∧ '<' ∉ name ∧ '>' ∉ name := by
  have listed : entity = "&amp;" ∨ entity = "&lt;" ∨ entity = "&gt;" := by
    simpa [entities] using known
  obtain rfl | rfl | rfl := listed
  · exact ⟨['a', 'm', 'p', ';'], rfl, by decide⟩
  · exact ⟨['l', 't', ';'], rfl, by decide⟩
  · exact ⟨['g', 't', ';'], rfl, by decide⟩

theorem Escaped.entity_append {entity : String} (known : entity ∈ entities)
    (escaped : Escaped cs) : Escaped (entity.toList ++ cs) := by
  obtain ⟨name, chars, no_amp, no_lt, no_gt⟩ := ampersand_of_mem_entities known
  refine ⟨?_, ?_, fun rest suffix => ?_⟩
  · simp [chars, no_lt, escaped.no_start]
  · simp [chars, no_gt, escaped.no_end]
  · rw [chars, List.cons_append] at suffix
    cases List.suffix_cons_iff.1 suffix with
    | inl here =>
        refine ⟨entity, known, ?_⟩
        rw [here, ← List.cons_append, ← chars]
        exact List.prefix_append _ _
    | inr later => exact escaped.entity rest (suffix_of_not_mem no_amp later)

theorem escaped_htmlChar (c : Char) (escaped : Escaped cs) : Escaped (htmlChar c ++ cs) := by
  obtain ⟨entity, known, written⟩ | ⟨written, no_amp, no_lt, no_gt⟩ := htmlChar_cases c
  · rw [written]
    exact escaped.entity_append known
  · rw [written]
    refine ⟨?_, ?_, fun rest suffix => ?_⟩
    · simp [no_lt.symm, escaped.no_start]
    · simp [no_gt.symm, escaped.no_end]
    · exact escaped.entity rest (suffix_of_not_mem (by simpa using no_amp.symm) suffix)

theorem escaped_htmlText (s : String) : Escaped (htmlText s).toList := by
  rw [htmlText, String.toList_ofList]
  induction s.toList with
  | nil => exact ⟨nofun, nofun, fun rest suffix => absurd suffix (by simp)⟩
  | cons c cs ih =>
      rw [List.flatMap_cons]
      exact escaped_htmlChar c ih

/-! Reading. -/

theorem decodeEntities_cons (other : c ≠ '&') (cs : List Char) :
    decodeEntities (c :: cs) = c :: decodeEntities cs := by
  rw [decodeEntities]
  all_goals
    intro _ same
    exact (other same).elim

/-- What has been written for a character is read as the character, whatever is written behind. -/
theorem decodeEntities_htmlChar (c : Char) (cs : List Char) :
    decodeEntities (htmlChar c ++ cs) = c :: decodeEntities cs := by
  unfold htmlChar
  split
  case h_4 other _ _ => exact decodeEntities_cons other cs
  all_goals rfl

theorem decodeEntities_htmlText (s : String) : decodeEntities (htmlText s).toList = s.toList := by
  rw [htmlText, String.toList_ofList]
  induction s.toList with
  | nil => rfl
  | cons c cs ih => rw [List.flatMap_cons, decodeEntities_htmlChar, ih]

/-- An HTML document is its text between two tags that are always the same, and the text is escaped
but not lost. Any characters at all may stand in the cells of the canvas. -/
theorem html_is_text (c : Canvas) : ∃ body : String,
    html c = "<pre class=\"seqgrid\">" ++ body ++ "</pre>" ∧ Escaped body.toList ∧
      String.ofList (decodeEntities body.toList) = text c := by
  refine ⟨htmlText (text c), rfl, escaped_htmlText _, ?_⟩
  rw [decodeEntities_htmlText, String.ofList_toList]

/-- An entity in the text is not taken for one that was written. -/
example : htmlText "a&lt;<" = "a&amp;lt;&lt;" ∧
    decodeEntities "a&amp;lt;&lt;".toList = "a&lt;<".toList := by
  decide

end SequenceChart.Document
