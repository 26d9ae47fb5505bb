import Mathlib.Data.List.Induction
import SequenceChart.CommandLine.Options

/-!
The grammar of the command line. Arguments are a row of items, each of which is written as one or
two arguments, and there is only one way to cut them. Sources are an ordered list and help may be
asked for again; of every other kind there is at most one item, so it does not matter where it
stands.
-/

namespace SequenceChart.CommandLine

/-- How an item may be written. The value of an option is the next argument, whatever it looks
like. -/
inductive Item.Spelled : Item → List String → Prop
  | help {arg : String} (known : arg ∈ ["--help", "-h"]) : Spelled .help [arg]
  | format {value : String} {f : OutputFormat} (known : OutputFormat.ofName? value = some f) :
      Spelled (.format f) ["--format", value]
  | keepCommentNewlines : Spelled .keepCommentNewlines ["--keep-comment-newlines"]
  | output {arg : String} (known : arg ∈ ["--output", "-o"]) (path : String) :
      Spelled (.output path) [arg, path]
  | verbose {arg : String} (known : arg ∈ ["--verbose", "-v"]) : Spelled .verbose [arg]
  | source {name : String} (file : name = "-" ∨ name.toList.head? ≠ some '-') :
      Spelled (.source name) [name]

/-- The arguments are these items, one behind the other. -/
inductive Splits : List String → List Item → Prop
  | nil : Splits [] []
  | cons {item : Item} {written rest : List String} {items : List Item}
      (spelled : item.Spelled written) (others : Splits rest items) :
      Splits (written ++ rest) (item :: items)

namespace Item

def format? : Item → Option OutputFormat
  | .format f => some f
  | .help | .keepCommentNewlines | .output _ | .verbose | .source _ => none

def output? : Item → Option String
  | .output path => some path
  | .help | .format _ | .keepCommentNewlines | .verbose | .source _ => none

def source? : Item → Option String
  | .source name => some name
  | .help | .format _ | .keepCommentNewlines | .output _ | .verbose => none

end Item

/-- No item is given again that may be given only once. -/
structure OnceEach (items : List Item) : Prop where
  format : (items.filterMap Item.format?).length ≤ 1
  keepCommentNewlines : items.count .keepCommentNewlines ≤ 1
  output : (items.filterMap Item.output?).length ≤ 1
  verbose : items.count .verbose ≤ 1

/-- What all the items ask for together. -/
def Options.collect (items : List Item) : Options where
  sources := items.filterMap Item.source?
  format := (items.filterMap Item.format?).head?
  keepCommentNewlines := decide (.keepCommentNewlines ∈ items)
  output := (items.filterMap Item.output?).head?
  verbose := decide (.verbose ∈ items)
  help := decide (.help ∈ items)

variable {args written rest : List String} {items others : List Item} {item : Item}
  {o : Options}

/-! Arguments as items. -/

theorem isSourceName_iff {name : String} :
    isSourceName name = true ↔ name = "-" ∨ name.toList.head? ≠ some '-' := by
  simp [isSourceName]

/-- A hyphen starts every word that is not the name of a source. -/
theorem ne_of_isSourceName {name word : String} (file : name = "-" ∨ name.toList.head? ≠ some '-')
    (option : word ≠ "-" ∧ word.toList.head? = some '-') : name ≠ word := by
  rintro rfl
  exact file.elim option.1 (· option.2)

theorem Item.Spelled.itemsOf?_append (spelled : item.Spelled written) (rest : List String) :
    itemsOf? (written ++ rest) = (itemsOf? rest).map (item :: ·) := by
  rw [itemsOf?.eq_def]
  cases spelled with
  | help known => exact if_pos (by simpa using known)
  | format known => simp [known]
  | keepCommentNewlines => simp
  | output known path =>
      obtain rfl | rfl : _ = "--output" ∨ _ = "-o" := by simpa using known
      · simp
      · simp
  | verbose known =>
      obtain rfl | rfl : _ = "--verbose" ∨ _ = "-v" := by simpa using known
      · simp
      · simp
  | source file =>
      have other {word : String} (option : word ≠ "-" ∧ word.toList.head? = some '-') :=
        ne_of_isSourceName file option
      simp [other, isSourceName_iff.2 file]

theorem Splits.of_map {read : Option (List Item)} (spelled : item.Spelled written)
    (others : ∀ {items : List Item}, read = some items → Splits rest items)
    (all : read.map (item :: ·) = some items) : Splits (written ++ rest) items := by
  obtain ⟨items, here, rfl⟩ := Option.map_eq_some_iff.1 all
  exact .cons spelled (others here)

theorem splits_of_itemsOf? (read : itemsOf? args = some items) : Splits args items := by
  fun_induction itemsOf? args generalizing items with
  | case1 =>
      cases read
      exact .nil
  | case2 arg rest known ih => exact .of_map (.help (by simpa using known)) ih read
  | case3 rest _ ih => exact .of_map .keepCommentNewlines ih read
  | case4 arg rest _ _ known ih => exact .of_map (.verbose (by simpa using known)) ih read
  | case6 value rest _ _ _ ih =>
      obtain ⟨f, known, all⟩ := Option.bind_eq_some_iff.1 read
      exact .of_map (.format known) ih all
  | case8 arg _ _ _ _ known path rest ih =>
      exact .of_map (.output (by simpa using known) path) ih read
  | case9 arg rest _ _ _ _ _ file ih => exact .of_map (.source (isSourceName_iff.1 file)) ih read
  | case5 | case7 | case10 => contradiction

theorem splits_iff : Splits args items ↔ itemsOf? args = some items := by
  constructor
  · intro splits
    induction splits with
    | nil => rfl
    | cons spelled _ ih => rw [spelled.itemsOf?_append, ih, Option.map_some]
  · exact splits_of_itemsOf?

/-! Items as options. -/

theorem onceEach_iff : OnceEach items ↔ (items.filterMap Item.format?).length ≤ 1 ∧
    items.count .keepCommentNewlines ≤ 1 ∧ (items.filterMap Item.output?).length ≤ 1 ∧
      items.count .verbose ≤ 1 :=
  ⟨fun once => ⟨once.format, once.keepCommentNewlines, once.output, once.verbose⟩,
    fun ⟨format, keep, output, verbose⟩ => ⟨format, keep, output, verbose⟩⟩

instance (items : List Item) : Decidable (OnceEach items) :=
  decidable_of_iff _ onceEach_iff.symm

theorem OnceEach.of_concat (once : OnceEach (items ++ [item])) : OnceEach items := by
  have part : List.Sublist items (items ++ [item]) := List.sublist_append_left items [item]
  exact ⟨Nat.le_trans (part.filterMap _).length_le once.format,
    Nat.le_trans (part.count_le _) once.keepCommentNewlines,
    Nat.le_trans (part.filterMap _).length_le once.output,
    Nat.le_trans (part.count_le _) once.verbose⟩

theorem count_concat_of_mem (given : item ∈ items) : ¬ (items ++ [item]).count item ≤ 1 := by
  have before := List.count_pos_iff.2 given
  rw [List.count_append, List.count_singleton_self]
  omega

namespace Options

/-- One more item is taken in unless it is given again and must not be. -/
theorem add?_collect (once : OnceEach items) (item : Item) :
    (collect items).add? item =
      if OnceEach (items ++ [item]) then some (collect (items ++ [item])) else none := by
  obtain ⟨format, keep, output, verbose⟩ := once
  cases item with
  | help | source _ =>
      simp [add?, collect, onceEach_iff, List.filterMap_cons, Item.format?, Item.output?,
        Item.source?, *]
  | format f =>
      cases given : items.filterMap Item.format? <;>
        simp [add?, collect, onceEach_iff, List.filterMap_cons, Item.format?, Item.output?,
          Item.source?, *]
  | keepCommentNewlines =>
      by_cases given : .keepCommentNewlines ∈ items
      · rw [if_neg fun more => count_concat_of_mem given more.keepCommentNewlines]
        simp [add?, collect, given]
      · simp [add?, collect, onceEach_iff, List.filterMap_cons, Item.format?, Item.output?,
          Item.source?, List.count_eq_zero.2 given, *]
  | output path =>
      cases given : items.filterMap Item.output? <;>
        simp [add?, collect, onceEach_iff, List.filterMap_cons, Item.format?, Item.output?,
          Item.source?, *]
  | verbose =>
      by_cases given : .verbose ∈ items
      · rw [if_neg fun more => count_concat_of_mem given more.verbose]
        simp [add?, collect, given]
      · simp [add?, collect, onceEach_iff, List.filterMap_cons, Item.format?, Item.output?,
          Item.source?, List.count_eq_zero.2 given, *]

theorem ofItems?_concat (items : List Item) (item : Item) :
    ofItems? (items ++ [item]) = (ofItems? items).bind (·.add? item) := by
  simp [ofItems?, List.foldlM_append]

/-- Items are put together in one way, if no item is given again that must not be. -/
theorem ofItems?_eq (items : List Item) :
    ofItems? items = if OnceEach items then some (collect items) else none := by
  induction items using List.reverseRecOn with
  | nil => rfl
  | append_singleton items item ih =>
      rw [ofItems?_concat, ih]
      by_cases once : OnceEach items
      · rw [if_pos once, Option.bind_some, add?_collect once]
      · rw [if_neg once, if_neg fun more => once more.of_concat, Option.bind_none]

theorem ofArgs?_eq (splits : Splits args items) :
    ofArgs? args = if OnceEach items then some (collect items) else none := by
  rw [ofArgs?, splits_iff.1 splits]
  exact ofItems?_eq items

/-! Items in another order. -/

theorem perm_of_short {α : Type} {xs ys : List α} (short : xs.length ≤ 1) (perm : ys.Perm xs) :
    ys = xs := by
  cases xs with
  | nil => exact List.perm_nil.1 perm
  | cons x xs =>
      have single : xs = [] := by simpa using short
      rw [single] at perm ⊢
      exact List.perm_singleton.1 perm

theorem onceEach_of_perm (once : OnceEach items) (perm : others.Perm items) : OnceEach others where
  format := (perm.filterMap _).length_eq ▸ once.format
  keepCommentNewlines := perm.count_eq _ ▸ once.keepCommentNewlines
  output := (perm.filterMap _).length_eq ▸ once.output
  verbose := perm.count_eq _ ▸ once.verbose

theorem collect_of_perm (once : OnceEach items) (perm : others.Perm items)
    (sources : others.filterMap Item.source? = items.filterMap Item.source?) :
    collect others = collect items := by
  simp only [collect, sources, perm.mem_iff, perm_of_short once.format (perm.filterMap _),
    perm_of_short once.output (perm.filterMap _)]

/-- Arguments are accepted if they are items and none of these is given again that may be given only
once. There is only one way to read them, and what they ask for does not depend on the order of the
items, if the sources keep theirs. -/
theorem accepted_iff_items (args : List String) :
    (∀ o, ofArgs? args = some o ↔
      ∃ items, Splits args items ∧ OnceEach items ∧ collect items = o) ∧
    (∀ items others, Splits args items → Splits args others → others = items) ∧
    ∀ o items others args', ofArgs? args = some o → Splits args items → Splits args' others →
      others.Perm items → others.filterMap Item.source? = items.filterMap Item.source? →
        ofArgs? args' = some o := by
  refine ⟨fun o => ⟨fun accepted => ?_, ?_⟩, fun items others cut again => ?_, ?_⟩
  · obtain ⟨items, read, _⟩ := Option.bind_eq_some_iff.1 accepted
    have cut := splits_of_itemsOf? read
    rw [ofArgs?_eq cut, Option.ite_none_right_eq_some, Option.some.injEq] at accepted
    exact ⟨items, cut, accepted⟩
  · rintro ⟨items, cut, once, rfl⟩
    rw [ofArgs?_eq cut, if_pos once]
  · rw [splits_iff] at cut again
    exact Option.some.inj (again.symm.trans cut)
  · intro o items others args' accepted cut cut' perm sources
    rw [ofArgs?_eq cut, Option.ite_none_right_eq_some] at accepted
    obtain ⟨once, same⟩ := accepted
    rw [ofArgs?_eq cut', if_pos (onceEach_of_perm once perm), collect_of_perm once perm sources,
      same]

/-- The value of an option is not looked at, so `--help` asks for no help behind `-o`. -/
theorem accepted_iff_items_reordered :
    ofArgs? ["-o", "--help", "a", "--format", " TXT ", "-"] =
        some { sources := ["a", "-"], format := some .text, output := some "--help" } ∧
      ofArgs? ["--format", "text", "a", "-", "--output", "--help"] =
        some { sources := ["a", "-"], format := some .text, output := some "--help" } := by
  have accepted : ofArgs? ["-o", "--help", "a", "--format", " TXT ", "-"] =
      some { sources := ["a", "-"], format := some .text, output := some "--help" } := by
    decide
  have cut : Splits ["-o", "--help", "a", "--format", " TXT ", "-"]
      [.output "--help", .source "a", .format .text, .source "-"] := splits_iff.2 (by decide)
  have again : Splits ["--format", "text", "a", "-", "--output", "--help"]
      [.format .text, .source "a", .source "-", .output "--help"] := splits_iff.2 (by decide)
  obtain ⟨_, _, reordered⟩ := accepted_iff_items ["-o", "--help", "a", "--format", " TXT ", "-"]
  exact ⟨accepted, reordered _ _ _ _ accepted cut again (by decide) rfl⟩

end Options

end SequenceChart.CommandLine
