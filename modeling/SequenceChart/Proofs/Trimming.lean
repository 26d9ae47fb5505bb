import Mathlib.Data.List.DropRight
import SequenceChart.Text.WhiteSpace

/-!
Runs of list members that pass a test. The run at the front of a list is known by the member behind
it. Without the runs at both its ends a list is a part of itself from which nothing more can be left
out; in this way texts are without the white space at their ends.
-/

namespace SequenceChart.Text

variable {α : Type} {p : α → Bool} {xs rest : List α}

/-! The front. -/

theorem run_of_stop (p : α → Bool) (pass : ∀ x ∈ xs, p x = true)
    (stop : ∀ x ∈ rest.head?, p x = false) :
    (xs ++ rest).takeWhile p = xs ∧ (xs ++ rest).dropWhile p = rest := by
  rw [List.takeWhile_append_of_pos pass, List.dropWhile_append_of_pos pass]
  cases rest with
  | nil => exact ⟨List.append_nil xs, rfl⟩
  | cons x rest =>
      have fails := stop x rfl
      simp [fails]

theorem head?_dropWhile (p : α → Bool) (xs : List α) :
    ∀ x ∈ (xs.dropWhile p).head?, p x = false := by
  intro x first
  have fails := List.head?_dropWhile_not p xs
  rw [first] at fails
  simpa using fails

/-- Every list starts with a run of members that pass and goes on with one that does not. -/
theorem exists_run (p : α → Bool) (xs : List α) : ∃ run rest : List α,
    (∀ x ∈ run, p x = true) ∧ (∀ x ∈ rest.head?, p x = false) ∧ xs = run ++ rest :=
  ⟨xs.takeWhile p, xs.dropWhile p, List.all_eq_true.1 List.all_takeWhile, head?_dropWhile p xs,
    List.takeWhile_append_dropWhile.symm⟩

theorem dropWhile_eq_self (first : ∀ x ∈ xs.head?, p x = false) : xs.dropWhile p = xs := by
  cases xs with
  | nil => rfl
  | cons x xs => exact List.dropWhile_cons_of_neg (by simpa using first x rfl)

/-- A member that fails the test stops the run before the second list. -/
theorem dropWhile_append_of_exists (stop : ∃ x ∈ xs, p x = false) (ys : List α) :
    (xs ++ ys).dropWhile p = xs.dropWhile p ++ ys := by
  have some_left : (xs.dropWhile p).isEmpty = false := by
    rw [List.isEmpty_eq_false_iff, Ne, List.dropWhile_eq_nil_iff]
    obtain ⟨x, mem, fails⟩ := stop
    exact fun pass => by simp [pass x mem] at fails
  rw [List.dropWhile_append, some_left]
  rfl

/-! The end. -/

theorem dropTrailing_eq (p : α → Bool) (xs : List α) : dropTrailing p xs = xs.rdropWhile p :=
  rfl

theorem getLast?_dropTrailing (p : α → Bool) (xs : List α) :
    ∀ x ∈ (dropTrailing p xs).getLast?, p x = false := by
  intro x last
  rw [dropTrailing_eq] at last
  obtain ⟨ne_nil, rfl⟩ := List.mem_getLast?_eq_getLast last
  simpa using List.rdropWhile_last_not p xs ne_nil

theorem dropTrailing_eq_self (last : ∀ x ∈ xs.getLast?, p x = false) : dropTrailing p xs = xs := by
  refine List.rdropWhile_eq_self_iff.2 fun ne_nil => ?_
  simpa using last _ (List.getLast?_eq_some_getLast ne_nil)

theorem dropTrailing_append (xs : List α) (pass : ∀ x ∈ rest, p x = true) :
    dropTrailing p (xs ++ rest) = dropTrailing p xs := by
  rw [dropTrailing, List.reverse_append, List.dropWhile_append_of_pos]
  · rfl
  · simpa using pass

theorem dropTrailing_append_of_exists (xs : List α) (stop : ∃ x ∈ rest, p x = false) :
    dropTrailing p (xs ++ rest) = xs ++ dropTrailing p rest := by
  rw [dropTrailing, List.reverse_append, dropWhile_append_of_exists (by simpa using stop),
    List.reverse_append, List.reverse_reverse]
  rfl

/-! Both ends. -/

theorem strip_isInfix (p : α → Bool) (xs : List α) : dropTrailing p (xs.dropWhile p) <:+: xs :=
  (List.rdropWhile_prefix p _).isInfix.trans (List.dropWhile_suffix p).isInfix

theorem head?_strip (p : α → Bool) (xs : List α) :
    ∀ x ∈ (dropTrailing p (xs.dropWhile p)).head?, p x = false := by
  intro x first
  have front : dropTrailing p (xs.dropWhile p) <+: xs.dropWhile p := List.rdropWhile_prefix p _
  have here := (List.singleton_prefix_iff_head?_eq_some.2 first).trans front
  exact head?_dropWhile p xs x (List.singleton_prefix_iff_head?_eq_some.1 here)

theorem strip_eq_self (first : ∀ x ∈ xs.head?, p x = false)
    (last : ∀ x ∈ xs.getLast?, p x = false) : dropTrailing p (xs.dropWhile p) = xs := by
  rw [dropWhile_eq_self first, dropTrailing_eq_self last]

theorem strip_append (xs : List α) (pass : ∀ x ∈ rest, p x = true) :
    dropTrailing p ((xs ++ rest).dropWhile p) = dropTrailing p (xs.dropWhile p) := by
  by_cases stop : ∃ x ∈ xs, p x = false
  · rw [dropWhile_append_of_exists stop, dropTrailing_append _ pass]
  · have run : ∀ x ∈ xs, p x = true := by simpa using stop
    rw [List.dropWhile_append_of_pos run, List.dropWhile_eq_nil_iff.2 run,
      List.dropWhile_eq_nil_iff.2 pass]

/-- Everything between two members that fail the test stays. -/
theorem strip_between {x : α} (before : ∃ x ∈ xs, p x = false) (behind : ∃ x ∈ rest, p x = false) :
    dropTrailing p ((xs ++ x :: rest).dropWhile p) =
      xs.dropWhile p ++ x :: dropTrailing p rest := by
  obtain ⟨y, mem, fails⟩ := behind
  rw [dropWhile_append_of_exists before,
    dropTrailing_append_of_exists _ ⟨y, List.mem_cons_of_mem x mem, fails⟩,
    ← List.singleton_append, dropTrailing_append_of_exists [x] ⟨y, mem, fails⟩]
  rfl

/-! Texts. -/

theorem trim_isInfix (s : String) : (trim s).toList <:+: s.toList := by
  rw [trim, String.toList_ofList]
  exact strip_isInfix isWhiteSpace s.toList

theorem trim_trim (s : String) : trim (trim s) = trim s := by
  rw [trim, trim, String.toList_ofList,
    strip_eq_self (head?_strip _ _) (getLast?_dropTrailing _ _)]

end SequenceChart.Text
