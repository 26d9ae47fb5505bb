import SequenceChart.Text.Word

/-!
Participant names. A name is a word of its own: not empty, made of word characters, and not one of
the reserved words. Keywords that are not reserved may name a participant.
-/

namespace SequenceChart.Name

/-- Words that open a block. Blocks are recognised, but a chart has no room for them. -/
def blockWords : List String := ["alt", "opt", "loop"]

/-- Words that name no participant. -/
def reservedWords : List String := ["alt", "opt", "loop", "note", "space"]

/-- Why a text is not a name. -/
inductive Fault where
  | empty
  | invalidChar (c : Char)
  | reserved (word : String)
  deriving DecidableEq, Repr

def Fault.message : Fault → String
  | .empty => "must not be empty"
  | .invalidChar c => "contains invalid character: '" ++ String.ofList [c] ++ "'"
  | .reserved word => s!"'{word}' is a reserved keyword"

/-- The first fault of a text, or `none` when it is a name. -/
def fault? (s : String) : Option Fault :=
  if s = "" then
    some .empty
  else
    match s.toList.find? (!Text.isWord ·) with
    | some c => some (.invalidChar c)
    | none => if s ∈ reservedWords then some (.reserved s) else none

/-- A text that names a participant. -/
structure Valid (s : String) : Prop where
  ne_empty : s ≠ ""
  isWord : ∀ c ∈ s.toList, Text.isWord c = true
  not_reserved : s ∉ reservedWords

theorem fault?_eq_none_iff (s : String) : fault? s = none ↔ Valid s := by
  have find : s.toList.find? (!Text.isWord ·) = none ↔ ∀ c ∈ s.toList, Text.isWord c = true := by
    simp
  constructor
  · intro h
    unfold fault? at h
    split at h
    · contradiction
    · split at h
      · contradiction
      · rename_i ne_empty _ none
        split at h
        · contradiction
        · exact ⟨ne_empty, find.1 none, by assumption⟩
  · intro h
    simp [fault?, h.ne_empty, find.2 h.isWord, h.not_reserved]

instance (s : String) : Decidable (Valid s) :=
  decidable_of_iff _ (fault?_eq_none_iff s)

end SequenceChart.Name
