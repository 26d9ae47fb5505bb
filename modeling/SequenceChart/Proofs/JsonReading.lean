import SequenceChart.Proofs.Trimming

/-!
JSON texts and the values that they stand for. A reader takes one thing from the front of a text and
gives back what is behind it, and `Json.read?` accepts a text that is one value with white space
around it.
-/

namespace SequenceChart

/-- What a JSON text stands for. A number is an integer times a power of ten, and the members of an
object keep their order. -/
inductive Json where
  | null
  | bool (value : Bool)
  | number (mantissa exponent : Int)
  | string (value : String)
  | array (elements : List Json)
  | object (members : List (String × Json))

namespace Json

abbrev Reader (α : Type) := List Char → Option (α × List Char)

namespace Reader

def isBlank (c : Char) : Bool :=
  c == ' ' || c == '\t' || c == '\n' || c == '\r'

def skipBlanks (cs : List Char) : List Char :=
  cs.dropWhile isBlank

/-! Strings. -/

def hexDigit? (c : Char) : Option Nat :=
  if c.isDigit then some (c.toNat - '0'.toNat)
  else if 'a' ≤ c ∧ c ≤ 'f' then some (c.toNat - 'a'.toNat + 10)
  else if 'A' ≤ c ∧ c ≤ 'F' then some (c.toNat - 'A'.toNat + 10)
  else none

/-- The number that four hexadecimal digits stand for. -/
def hexCode? (a b c d : Char) : Option Nat := do
  let a ← hexDigit? a
  let b ← hexDigit? b
  let c ← hexDigit? c
  let d ← hexDigit? d
  return ((a * 16 + b) * 16 + c) * 16 + d

/-- What a character behind a backslash stands for. -/
def escaped? : Char → Option Char
  | '"' => some '"'
  | '\\' => some '\\'
  | '/' => some '/'
  | 'b' => some '\x08'
  | 'f' => some '\x0c'
  | 'n' => some '\n'
  | 'r' => some '\r'
  | 't' => some '\t'
  | _ => none

/-- Puts something in front of what a reader has found. -/
def prepend {α : Type} (a : α) : List α × List Char → List α × List Char
  | (as, rest) => (a :: as, rest)

/-- The code points up to the closing quote. Escapes may give halves of surrogate pairs. -/
def codes : Reader (List Nat)
  | '"' :: cs => some ([], cs)
  | '\\' :: 'u' :: a :: b :: c :: d :: cs => do
    let code ← hexCode? a b c d
    (codes cs).map (prepend code)
  | '\\' :: e :: cs => do
    let c ← escaped? e
    (codes cs).map (prepend c.toNat)
  | c :: cs => if c.toNat < 0x20 then none else (codes cs).map (prepend c.toNat)
  | [] => none

def isHighSurrogate (code : Nat) : Bool :=
  0xD800 ≤ code && code < 0xDC00

def isLowSurrogate (code : Nat) : Bool :=
  0xDC00 ≤ code && code < 0xE000

/-- The characters of a list of code points. Two halves of a surrogate pair are one character, and
half a pair is none. -/
def ofCodes : List Nat → Option (List Char)
  | [] => some []
  | high :: low :: codes =>
    if isHighSurrogate high && isLowSurrogate low then
      (ofCodes codes).map (Char.ofNat (0x10000 + (high - 0xD800) * 0x400 + (low - 0xDC00)) :: ·)
    else if high.isValidChar then
      (ofCodes (low :: codes)).map (Char.ofNat high :: ·)
    else
      none
  | [code] => if code.isValidChar then some [Char.ofNat code] else none

/-- A string behind its opening quote. -/
def string : Reader String := fun cs => do
  let (codes, rest) ← codes cs
  return (String.ofList (← ofCodes codes), rest)

/-! Numbers. -/

def digits : Reader (List Char) := fun cs =>
  if cs.takeWhile Char.isDigit = [] then none
  else some (cs.takeWhile Char.isDigit, cs.dropWhile Char.isDigit)

def fraction : Reader (List Char)
  | '.' :: cs => digits cs
  | cs => some ([], cs)

def exponent : Reader Int
  | 'e' :: cs | 'E' :: cs => do
    let (negative, cs) := match cs with
      | '-' :: cs => (true, cs)
      | '+' :: cs => (false, cs)
      | cs => (false, cs)
    let (power, rest) ← digits cs
    let power : Int := Nat.ofDigitChars 10 power 0
    return (if negative then -power else power, rest)
  | cs => some (0, cs)

/-- A number without its sign. Only the number zero starts with a zero. -/
def unsigned : Reader (Nat × Int) := fun cs => do
  let (whole, cs) ← digits cs
  guard (whole = ['0'] ∨ whole.head? ≠ some '0')
  let (part, cs) ← fraction cs
  let (power, rest) ← exponent cs
  return ((Nat.ofDigitChars 10 (whole ++ part) 0, power - part.length), rest)

def number : Reader Json
  | '-' :: cs => do
    let ((mantissa, power), rest) ← unsigned cs
    return (.number (-mantissa) power, rest)
  | cs => do
    let ((mantissa, power), rest) ← unsigned cs
    return (.number mantissa power, rest)

/-! Values. -/

def word : Reader Json := fun cs => do
  let value ← match String.ofList (cs.takeWhile Char.isAlpha) with
    | "null" => some Json.null
    | "true" => some (Json.bool true)
    | "false" => some (Json.bool false)
    | _ => none
  return (value, cs.dropWhile Char.isAlpha)

section

variable {α : Type} (item : Reader α) (close : Char)

/-- Up to `n` things with commas between them, and the bracket behind them. -/
def items : Nat → Reader (List α)
  | 0, _ => none
  | n + 1, cs => do
    let (first, cs) ← item cs
    match skipBlanks cs with
    | [] => none
    | c :: cs =>
      if c = close then some ([first], cs)
      else if c = ',' then (items n cs).map (prepend first)
      else none

def enclosed (n : Nat) : Reader (List α) := fun cs =>
  items item close n cs <|> match skipBlanks cs with
    | [] => none
    | c :: cs => if c = close then some ([], cs) else none

end

def member (value : Reader Json) : Reader (String × Json) := fun cs =>
  match skipBlanks cs with
  | '"' :: cs => do
    let (key, cs) ← string cs
    match skipBlanks cs with
    | ':' :: cs =>
      let (v, rest) ← value cs
      return ((key, v), rest)
    | _ => none
  | _ => none

/-- A value no deeper than `n` and with no more than `n` things in one pair of brackets. -/
def value : Nat → Reader Json
  | 0, _ => none
  | n + 1, cs =>
    match skipBlanks cs with
    | '"' :: cs => do
      let (s, rest) ← string cs
      return (.string s, rest)
    | '[' :: cs => do
      let (elements, rest) ← enclosed (value n) ']' n cs
      return (.array elements, rest)
    | '\x7b' :: cs => do
      let (members, rest) ← enclosed (member (value n)) '\x7d' n cs
      return (.object members, rest)
    | cs => word cs <|> number cs

variable {α : Type} {cs rest : List Char} {n : Nat}

/-! What is read in a string. -/

/-- A character that stands for itself. -/
theorem codes_plain {c : Char} (quote : c ≠ '"') (backslash : c ≠ '\\') (printed : ¬ c.toNat < 0x20)
    (cs : List Char) : codes (c :: cs) = (codes cs).map (prepend c.toNat) := by
  rw [codes]
  · rw [if_neg printed]
  all_goals
    intros
    contradiction

/-- No character is half of a surrogate pair. -/
theorem isHighSurrogate_toNat (c : Char) : isHighSurrogate c.toNat = false := by
  have valid : c.toNat.isValidChar := c.valid
  simp only [Nat.isValidChar] at valid
  simp only [isHighSurrogate, Bool.and_eq_false_iff, decide_eq_false_iff_not]
  omega

theorem ofCodes_cons (c : Char) (codes : List Nat) :
    ofCodes (c.toNat :: codes) = (ofCodes codes).map (c :: ·) := by
  have valid : c.toNat.isValidChar := c.valid
  cases codes with
  | nil => simp [ofCodes, valid, Char.ofNat_toNat]
  | cons next codes =>
      rw [ofCodes, isHighSurrogate_toNat, if_neg (by simp), if_pos valid, Char.ofNat_toNat]

theorem ofCodes_toNat (chars : List Char) : ofCodes (chars.map Char.toNat) = some chars := by
  induction chars with
  | nil => rfl
  | cons c chars ih => rw [List.map_cons, ofCodes_cons, ih]; rfl

/-! What is read in a number. -/

theorem isAlpha_of_isDigit {d : Char} (digit : d.isDigit = true) : d.isAlpha = false := by
  have no_letter : ∀ k < 10, (Nat.digitChar k).isAlpha = false := by decide
  have zero : '0'.toNat = 48 := rfl
  have nine : '9'.toNat = 57 := rfl
  obtain ⟨low, high⟩ := Char.isDigit_iff_toNat.1 digit
  have small : d.toNat - 48 < 10 := by omega
  have same : Nat.digitChar (d.toNat - 48) = d := by
    rw [← Char.toNat_inj, Nat.toNat_digitChar_of_lt_ten small]
    omega
  rw [← same]
  exact no_letter _ small

theorem digits_append {ds : List Char} (digit : ∀ d ∈ ds, d.isDigit = true) (some_digit : ds ≠ [])
    (stop : ∀ c ∈ rest.head?, c.isDigit = false) : digits (ds ++ rest) = some (ds, rest) := by
  obtain ⟨taken, left⟩ := Text.run_of_stop Char.isDigit digit stop
  rw [digits, taken, left, if_neg some_digit]

theorem number_of_digit {d : Char} (digit : d.isDigit = true) (cs : List Char) :
    number (d :: cs) = (unsigned (d :: cs)).map fun (x, rest) => (.number x.1 x.2, rest) := by
  rw [number]
  · cases unsigned (d :: cs) <;> rfl
  · intro cs same
    cases same
    exact absurd digit (by decide)

/-! What is read as a value, by its first character. -/

theorem skipBlanks_append {blanks : List Char} (blank : ∀ c ∈ blanks, isBlank c = true)
    (cs : List Char) : skipBlanks (blanks ++ cs) = skipBlanks cs :=
  List.dropWhile_append_of_pos blank

theorem value_blank {c : Char} (blank : isBlank c = true) (n : Nat) (cs : List Char) :
    value n (c :: cs) = value n cs := by
  have skipped : skipBlanks (c :: cs) = skipBlanks cs := List.dropWhile_cons_of_pos blank
  cases n with
  | zero => rfl
  | succ n => rw [value, value, skipped]

theorem value_quote (n : Nat) (cs : List Char) :
    value (n + 1) ('"' :: cs) = (string cs).map fun (s, rest) => (.string s, rest) := by
  cases read : string cs <;> simp [value, skipBlanks, isBlank, read]

theorem value_bracket (n : Nat) (cs : List Char) : value (n + 1) ('[' :: cs) =
    (enclosed (value n) ']' n cs).map fun (vs, rest) => (.array vs, rest) := by
  cases read : enclosed (value n) ']' n cs <;> simp [value, skipBlanks, isBlank, read]

theorem value_brace (n : Nat) (cs : List Char) : value (n + 1) ('\x7b' :: cs) =
    (enclosed (member (value n)) '\x7d' n cs).map fun (ms, rest) => (.object ms, rest) := by
  cases read : enclosed (member (value n)) '\x7d' n cs <;> simp [value, skipBlanks, isBlank, read]

theorem value_of_digit {d : Char} (digit : d.isDigit = true) (cs : List Char) :
    value (n + 1) (d :: cs) = number (d :: cs) := by
  have other : ∀ c : Char, c.isDigit = false → d ≠ c := by
    rintro c no_digit rfl
    simp [digit] at no_digit
  have solid : skipBlanks (d :: cs) = d :: cs := by
    refine List.dropWhile_cons_of_neg ?_
    simp [isBlank, other]
  have no_word : word (d :: cs) = none := by
    rw [word, List.takeWhile_cons_of_neg (by simp [isAlpha_of_isDigit digit])]
    rfl
  rw [value, solid]
  split
  case h_4 => rw [no_word]; rfl
  all_goals
    rename_i here
    cases here
    exact absurd digit (by decide)

/-! What is read in a list. -/

section

variable {item : Reader α} {close : Char} {a : α} {rest' : List Char}

theorem items_last (first : item cs = some (a, rest)) (closing : skipBlanks rest = close :: rest') :
    items item close (n + 1) cs = some ([a], rest') := by
  simp [items, first, closing]

theorem items_comma (no_comma : close ≠ ',') (first : item cs = some (a, rest))
    (comma : skipBlanks rest = ',' :: rest') :
    items item close (n + 1) cs = (items item close n rest').map (prepend a) := by
  simp [items, first, comma, no_comma.symm]

end

end Reader

/-- The value of a JSON text. Its length bounds how deep the value is and how much it holds. -/
def read? (text : String) : Option Json := do
  let (v, rest) ← Reader.value (text.length + 1) text.toList
  guard (Reader.skipBlanks rest = [])
  return v

/-- A text with a value of every kind and with an escape for each half of a surrogate pair. -/
example : read? " [-1.50e+2,\"\\uD83D\\ude00\\/\" , \x7b\"a\" :\tnull\x7d, [], true ]" =
    some (.array
      [.number (-150) 0, .string "😀/", .object [("a", .null)], .array [], .bool true]) := by
  rfl

/-- A number starts with no more zeros than it needs, and a list does not end with a comma. -/
example : read? "01" = none ∧ read? "[1,]" = none := ⟨rfl, rfl⟩

end Json

end SequenceChart
