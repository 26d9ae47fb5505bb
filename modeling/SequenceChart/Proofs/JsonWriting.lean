import Mathlib.Data.List.Forall2
import SequenceChart.Document.Json
import SequenceChart.Proofs.JsonReading

/-!
Writers of JSON that put things on lines of their own. Such a writer may escape what has to be
escaped in a string as it likes, but it escapes nothing else. What it makes of strings, numbers,
lists and objects is read back as what was written, whatever stands in them.
-/

namespace SequenceChart

open Document

namespace Json

/-- The characters that do not stand for themselves in a string. -/
def Special (c : Char) : Prop :=
  c = '"' ∨ c = '\\' ∨ c.toNat < 0x20

instance (c : Char) : Decidable (Special c) :=
  inferInstanceAs (Decidable (_ ∨ _ ∨ _))

/-- A text that stands for a character in a string. Only special characters are escaped. -/
inductive StandsFor : List Char → Char → Prop
  | plain {c : Char} : ¬ Special c → StandsFor [c] c
  | named {c e : Char} : Special c → Reader.escaped? e = some c → StandsFor ['\\', e] c
  | coded {c h₁ h₂ h₃ h₄ : Char} : Special c → Reader.hexCode? h₁ h₂ h₃ h₄ = some c.toNat →
    StandsFor ['\\', 'u', h₁, h₂, h₃, h₄] c

end Json

/-- A writer keeps to JSON with one thing a line, two blanks for each level, and an empty list on
its line as it is. -/
structure JsonWriter.Pretty (w : JsonWriter) : Prop where
  number : ∀ n, w.number n = toString n
  string : ∀ s : String, ∃ texts, List.Forall₂ Json.StandsFor texts s.toList ∧
    w.string s = String.ofList ('"' :: texts.flatten ++ ['"'])
  list_nil : ∀ level, w.list level [] = "[]"
  list : ∀ level elements, elements ≠ [] →
    w.list level elements = "[" ++ jsonLines level elements ++ "]"
  object : ∀ level members, members ≠ [] → w.object level members =
    "\x7b" ++ jsonLines level (members.map fun (key, text) => jsonMember (w.string key) text) ++
      "\x7d"

namespace Json.Reader

variable {α : Type} {rest : List Char} {n : Nat} {w : JsonWriter}

/-! Strings. -/

theorem codes_standing {c : Char} {text : List Char} (stands : StandsFor text c) (cs : List Char) :
    codes (text ++ cs) = (codes cs).map (prepend c.toNat) := by
  cases stands with
  | plain plain =>
      simp only [Special, not_or] at plain
      exact codes_plain plain.1 plain.2.1 plain.2.2 cs
  | named _ named =>
      unfold escaped? at named
      split at named <;> cases named <;> rfl
  | coded _ code => simp [codes, code]

theorem codes_flatten {texts : List (List Char)} {chars : List Char}
    (stand : List.Forall₂ StandsFor texts chars) (rest : List Char) :
    codes (texts.flatten ++ '"' :: rest) = some (chars.map Char.toNat, rest) := by
  induction stand with
  | nil => rfl
  | cons here _ ih =>
      rw [List.flatten_cons, List.append_assoc, codes_standing here, ih]
      rfl

/-- A string of a writer stands in quotes, and behind the first of them it is read back. -/
theorem exists_quoted (pretty : w.Pretty) (s : String) : ∃ inside,
    (w.string s).toList = '"' :: inside ∧ ∀ rest, string (inside ++ rest) = some (s, rest) := by
  obtain ⟨texts, stand, written⟩ := pretty.string s
  refine ⟨texts.flatten ++ ['"'], ?_, fun rest => ?_⟩
  · rw [written, String.toList_ofList]
    rfl
  · rw [List.append_assoc, List.singleton_append]
    simp [string, codes_flatten stand, ofCodes_toNat, String.ofList_toList]

/-! Numbers. -/

/-- What stands behind a value in a document. -/
def Behind (rest : List Char) : Prop :=
  ∀ c ∈ rest.head?, c = ',' ∨ c = '\n'

theorem head?_toDigits {n : Nat} (positive : 0 < n) : (Nat.toDigits 10 n).head? ≠ some '0' := by
  induction n using Nat.strong_induction_on with
  | _ n ih =>
      rw [Nat.toDigits_eq_if (by decide)]
      split
      case isTrue small =>
        have digit : ∀ m < 10, 0 < m → m.digitChar ≠ '0' := by decide
        simpa using digit n small positive
      case isFalse large =>
        have front := ih (n / 10) (by omega) (by omega)
        cases more : Nat.toDigits 10 (n / 10) with
        | nil => exact (Nat.toDigits_ne_nil more).elim
        | cons d ds =>
            rw [more] at front
            exact front

theorem Behind.cases (behind : Behind rest) :
    rest = [] ∨ ∃ cs, rest = ',' :: cs ∨ rest = '\n' :: cs := by
  cases rest with
  | nil => exact .inl rfl
  | cons c cs =>
      obtain rfl | rfl := behind c rfl
      · exact .inr ⟨cs, .inl rfl⟩
      · exact .inr ⟨cs, .inr rfl⟩

/-- A number ends where it has been written. -/
theorem Behind.ends (behind : Behind rest) : (∀ c ∈ rest.head?, c.isDigit = false) ∧
    fraction rest = some ([], rest) ∧ exponent rest = some (0, rest) := by
  obtain rfl | ⟨cs, rfl | rfl⟩ := behind.cases
  · exact ⟨nofun, rfl, rfl⟩
  · exact ⟨by simp, rfl, rfl⟩
  · exact ⟨by simp, rfl, rfl⟩

theorem toList_toString (n : Nat) : (toString n).toList = Nat.toDigits 10 n := by
  rw [Nat.toString_eq_ofList_toDigits, String.toList_ofList]

theorem unsigned_toString (n : Nat) (behind : Behind rest) :
    unsigned ((toString n).toList ++ rest) = some ((n, 0), rest) := by
  obtain ⟨stop, no_fraction, no_exponent⟩ := behind.ends
  have digit : ∀ d ∈ Nat.toDigits 10 n, d.isDigit = true := fun d =>
    Nat.isDigit_of_mem_toDigits (by decide) (by decide)
  have first : Nat.toDigits 10 n = ['0'] ∨ (Nat.toDigits 10 n).head? ≠ some '0' := by
    cases Nat.eq_zero_or_pos n with
    | inl zero => exact .inl (zero ▸ Nat.toDigits_zero 10)
    | inr positive => exact .inr (head?_toDigits positive)
  rw [toList_toString, unsigned, digits_append digit Nat.toDigits_ne_nil stop]
  simp [guard, first, no_fraction, no_exponent, Nat.ofDigitChars_ten_toDigits]

/-! Values. -/

/-- The reader takes this text for `a`, whatever comes next in a document. -/
def Reads (item : Reader α) (text : List Char) (a : α) : Prop :=
  ∀ rest, Behind rest → item (text ++ rest) = some (a, rest)

theorem reads_string (pretty : w.Pretty) (n : Nat) (s : String) :
    Reads (value (n + 1)) (w.string s).toList (.string s) := by
  intro rest _
  obtain ⟨inside, quoted, read⟩ := exists_quoted pretty s
  rw [quoted, List.cons_append, value_quote, read]
  rfl

theorem reads_number (pretty : w.Pretty) (n m : Nat) :
    Reads (value (n + 1)) (w.number m).toList (.number m 0) := by
  intro rest behind
  have read := unsigned_toString m behind
  rw [pretty.number, toList_toString] at *
  cases digits : Nat.toDigits 10 m with
  | nil => exact (Nat.toDigits_ne_nil digits).elim
  | cons d ds =>
      have digit : d.isDigit = true :=
        Nat.isDigit_of_mem_toDigits (by decide) (by decide) (digits ▸ List.mem_cons_self)
      rw [digits] at read
      rw [List.cons_append, value_of_digit digit, number_of_digit digit, ← List.cons_append, read]
      rfl

/-! Lists. -/

/-- How the things between two brackets are read and what closes them: white space before them is
passed over, and the bracket is nothing that can stand between them. -/
structure ListedBy (item : Reader α) (close : Char) : Prop where
  pass : ∀ b, isBlank b = true → ∀ cs, item (b :: cs) = item cs
  solid : isBlank close = false
  no_comma : close ≠ ','

section

variable {item : Reader α} {close : Char} {parts : List (String × α)}

theorem ListedBy.pass_all (listed : ListedBy item close) {before : List Char}
    (blank : ∀ b ∈ before, isBlank b = true) (cs : List Char) : item (before ++ cs) = item cs := by
  induction before with
  | nil => rfl
  | cons b before ih =>
      obtain ⟨here, others⟩ := List.forall_mem_cons.1 blank
      rw [List.cons_append, listed.pass b here, ih others]

theorem ListedBy.items_pass (listed : ListedBy item close) {b : Char} (blank : isBlank b = true)
    (n : Nat) (cs : List Char) : items item close n (b :: cs) = items item close n cs := by
  cases n with
  | zero => rfl
  | succ n => rw [items, items, listed.pass b blank]

/-- The indentation of a level. -/
def blanks (level : Nat) : List Char :=
  List.replicate (2 * level) ' '

theorem isBlank_of_mem_blanks (level : Nat) : ∀ b ∈ blanks level, isBlank b = true := by
  intro b mem
  rw [List.eq_of_mem_replicate mem]
  rfl

/-- The lines of texts, without the line feed before the first of them. -/
def linesOf (level : Nat) (texts : List String) : List Char :=
  [',', '\n'].intercalate (texts.map fun text => blanks (level + 1) ++ text.toList)

theorem linesOf_singleton (level : Nat) (text : String) :
    linesOf level [text] = blanks (level + 1) ++ text.toList :=
  List.intercalate_singleton

theorem linesOf_cons_cons (level : Nat) (text next : String) (texts : List String) :
    linesOf level (text :: next :: texts) =
      blanks (level + 1) ++ (text.toList ++ ',' :: '\n' :: linesOf level (next :: texts)) := by
  rw [linesOf, List.map_cons, List.map_cons, List.intercalate_cons_cons, List.append_assoc,
    List.append_assoc]
  rfl

theorem length_le_linesOf (level : Nat) (texts : List String) :
    texts.length ≤ (linesOf level texts).length + 1 := by
  induction texts with
  | nil => exact Nat.zero_le _
  | cons text texts ih =>
      cases texts with
      | nil => exact Nat.le_add_left 1 _
      | cons next texts =>
          rw [linesOf_cons_cons]
          simp only [List.length_cons, List.length_append] at ih ⊢
          omega

theorem length_le_linesOf_of_mem {level : Nat} {text : String} {texts : List String}
    (mem : text ∈ texts) : text.length ≤ (linesOf level texts).length := by
  induction texts with
  | nil => contradiction
  | cons first texts ih =>
      rw [← String.length_toList] at ih ⊢
      cases texts with
      | nil =>
          rw [List.mem_singleton.1 mem, linesOf_singleton, List.length_append]
          exact Nat.le_add_left _ _
      | cons next texts =>
          rw [linesOf_cons_cons]
          simp only [List.length_append, List.length_cons]
          rcases List.mem_cons.1 mem with rfl | later
          · omega
          · have behind := ih later
            omega

theorem toList_jsonLines (level : Nat) (texts : List String) :
    (jsonLines level texts).toList = '\n' :: (linesOf level texts ++ '\n' :: blanks level) := by
  simp [jsonLines, jsonIndent, linesOf, blanks, String.toList_intercalate, Function.comp_def]

/-- Texts with a comma at the end of the line between them are read one after the other. -/
theorem ListedBy.items_linesOf (listed : ListedBy item close) (some_part : parts ≠ [])
    (reads : ∀ p ∈ parts, Reads item p.1.toList p.2) (room : parts.length ≤ n) (level : Nat)
    (rest : List Char) :
    items item close n
        (linesOf level (parts.map Prod.fst) ++ '\n' :: (blanks level ++ close :: rest)) =
      some (parts.map Prod.snd, rest) := by
  induction parts generalizing n with
  | nil => contradiction
  | cons p parts ih =>
      obtain ⟨here, others⟩ := List.forall_mem_cons.1 reads
      obtain ⟨n, rfl⟩ : ∃ m, n = m + 1 := ⟨n - 1, by simp at room; omega⟩
      have first (cs : List Char) (behind : Behind cs) :
          item (blanks (level + 1) ++ (p.1.toList ++ cs)) = some (p.2, cs) := by
        rw [listed.pass_all (isBlank_of_mem_blanks _), here cs behind]
      cases parts with
      | nil =>
          have closing : skipBlanks ('\n' :: (blanks level ++ close :: rest)) = close :: rest := by
            rw [← List.singleton_append, skipBlanks_append (by simp [isBlank]),
              skipBlanks_append (isBlank_of_mem_blanks level)]
            exact List.dropWhile_cons_of_neg (by simp [listed.solid])
          rw [List.map_singleton, linesOf_singleton, List.append_assoc]
          exact items_last (first _ (by simp [Behind])) closing
      | cons q parts =>
          have comma (cs : List Char) : skipBlanks (',' :: cs) = ',' :: cs := rfl
          have later := ih (List.cons_ne_nil q parts) others (Nat.le_of_succ_le_succ room)
          rw [List.map_cons, List.map_cons, linesOf_cons_cons, List.append_assoc,
            List.append_assoc, List.cons_append, List.cons_append,
            items_comma listed.no_comma (first _ (by simp [Behind])) (comma _),
            listed.items_pass rfl, ← List.map_cons, later]
          rfl

theorem ListedBy.enclosed_jsonLines (listed : ListedBy item close) (some_part : parts ≠ [])
    (reads : ∀ p ∈ parts, Reads item p.1.toList p.2) (room : parts.length ≤ n) (level : Nat)
    (rest : List Char) :
    enclosed item close n ((jsonLines level (parts.map Prod.fst)).toList ++ close :: rest) =
      some (parts.map Prod.snd, rest) := by
  have inside := listed.items_linesOf some_part reads room level rest
  rw [toList_jsonLines, List.cons_append, List.append_assoc, List.cons_append, enclosed,
    listed.items_pass rfl, inside]
  rfl

end

theorem listedBy_value (n : Nat) : ListedBy (value n) ']' where
  pass _ blank := value_blank blank n
  solid := rfl
  no_comma := by decide

theorem reads_list (pretty : w.Pretty) {parts : List (String × Json)}
    (reads : ∀ p ∈ parts, Reads (value n) p.1.toList p.2) (room : parts.length ≤ n) (level : Nat) :
    Reads (value (n + 1)) (w.list level (parts.map Prod.fst)).toList
      (.array (parts.map Prod.snd)) := by
  intro rest _
  by_cases none : parts = []
  · rw [none, List.map_nil, pretty.list_nil]
    cases n <;> rfl
  · rw [pretty.list level _ (mt List.map_eq_nil_iff.1 none), String.toList_append,
      String.toList_append]
    change value (n + 1) ('[' :: (jsonLines level (parts.map Prod.fst)).toList ++ [']'] ++ rest) = _
    rw [List.cons_append, List.cons_append, List.append_assoc, List.singleton_append,
      value_bracket, (listedBy_value n).enclosed_jsonLines none reads room]
    rfl

theorem length_le_list (pretty : w.Pretty) (level : Nat) (elements : List String) :
    elements.length + 2 ≤ (w.list level elements).length := by
  by_cases none : elements = []
  · rw [none, pretty.list_nil]
    exact Nat.le_refl _
  · have lines := length_le_linesOf level elements
    have inside := congrArg List.length (toList_jsonLines level elements)
    have opening : "[".length = 1 := rfl
    have closing : "]".length = 1 := rfl
    rw [pretty.list level elements none]
    simp only [String.length_append, String.length_toList, List.length_append,
      List.length_cons] at inside ⊢
    omega

/-! Members. -/

theorem listedBy_member (value : Reader Json) : ListedBy (member value) '\x7d' where
  pass b blank cs := by
    have skipped : skipBlanks (b :: cs) = skipBlanks cs := List.dropWhile_cons_of_pos blank
    rw [member, member, skipped]
  solid := rfl
  no_comma := by decide

theorem reads_member (pretty : w.Pretty) (key : String) {text : String} {v : Json}
    (reads : Reads (value n) text.toList v) :
    Reads (member (value n)) (jsonMember (w.string key) text).toList (key, v) := by
  intro rest behind
  obtain ⟨inside, quoted, read⟩ := exists_quoted pretty key
  have quote (cs : List Char) : skipBlanks ('"' :: cs) = '"' :: cs := rfl
  have colon (cs : List Char) : skipBlanks (':' :: cs) = ':' :: cs := rfl
  have written : (jsonMember (w.string key) text).toList ++ rest =
      '"' :: (inside ++ ':' :: ' ' :: (text.toList ++ rest)) := by
    simp [jsonMember, quoted]
  rw [written, member, quote]
  simp [read, colon, value_blank, isBlank, reads rest behind]

theorem reads_object (pretty : w.Pretty) {parts : List (String × String × Json)}
    (some_part : parts ≠ []) (reads : ∀ p ∈ parts, Reads (value n) p.2.1.toList p.2.2)
    (room : parts.length ≤ n) (level : Nat) :
    Reads (value (n + 1)) (w.object level (parts.map fun p => (p.1, p.2.1))).toList
      (.object (parts.map fun p => (p.1, p.2.2))) := by
  intro rest _
  have inside : enclosed (member (value n)) '\x7d' n
      ((jsonLines level (parts.map fun p => jsonMember (w.string p.1) p.2.1)).toList ++
        '\x7d' :: rest) = some (parts.map fun p => (p.1, p.2.2), rest) := by
    let members := parts.map fun p => (jsonMember (w.string p.1) p.2.1, p.1, p.2.2)
    have some_member : members ≠ [] := mt List.map_eq_nil_iff.1 some_part
    have reads_members : ∀ m ∈ members, Reads (member (value n)) m.1.toList m.2 :=
      List.forall_mem_map.2 fun p mem => reads_member pretty p.1 (reads p mem)
    have room : members.length ≤ n := by rwa [List.length_map]
    have listed := (listedBy_member (value n)).enclosed_jsonLines some_member reads_members room
      level rest
    rw [List.map_map, List.map_map] at listed
    exact listed
  rw [pretty.object level _ (mt List.map_eq_nil_iff.1 some_part), List.map_map,
    String.toList_append, String.toList_append]
  change value (n + 1) ('\x7b' :: (jsonLines level _).toList ++ ['\x7d'] ++ rest) = _
  rw [List.cons_append, List.cons_append, List.append_assoc, List.singleton_append, value_brace]
  exact congrArg (Option.map _) inside

theorem length_lt_object (pretty : w.Pretty) {level : Nat} {key text : String}
    {members : List (String × String)} (mem : (key, text) ∈ members) :
    text.length < (w.object level members).length := by
  have member : jsonMember (w.string key) text ∈
      members.map fun (key, text) => jsonMember (w.string key) text :=
    List.mem_map.2 ⟨(key, text), mem, rfl⟩
  have line : _ ≤ (linesOf level _).length := length_le_linesOf_of_mem member
  have lines := congrArg List.length (toList_jsonLines level
    (members.map fun (key, text) => jsonMember (w.string key) text))
  rw [pretty.object level members (List.ne_nil_of_mem mem)]
  simp only [jsonMember, String.length_append, String.length_toList, List.length_append,
    List.length_cons] at line lines ⊢
  omega

end Json.Reader

end SequenceChart
