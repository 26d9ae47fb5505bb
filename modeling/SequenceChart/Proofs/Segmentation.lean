import SequenceChart.Proofs.Trimming
import SequenceChart.Token.Scan

/-!
How a text falls into lexemes. Whether a lexeme may stand at the front of a text depends on its own
characters and on the one character behind it. By these rules every text has exactly one
segmentation, and scanning finds it.
-/

namespace SequenceChart

theorem Text.not_mem_of_isWord {c : Char} {marks : List Char} (word : isWord c = true)
    (other : marks.all (!isWord ·) = true) : c ∉ marks := by
  intro mem
  have no_word := List.all_eq_true.1 other c mem
  rw [word] at no_word
  contradiction

/-- The terminators of lines in front of the character `next`. In front of a line feed a carriage
return is only the first half of one. -/
inductive IsTerminator (next : Option Char) : String → Prop
  | crlf : IsTerminator next "\r\n"
  | lf : IsTerminator next "\n"
  | cr (whole : next ≠ some '\n') : IsTerminator next "\r"

/-- Characters that are words by themselves in front of the character `next`. -/
structure IsStray (next : Option Char) (c : Char) : Prop where
  not_word : Text.isWord c = false
  not_mark : c ∉ ['\r', '\n', ' ', '\t', ':', ';']
  no_arrow : c = '-' → next ≠ some '>'
  no_comment : c = '/' → next ≠ some '/'

inductive Token.Fits (next : Option Char) : Token → Prop
  | newline {text : String} (whole : IsTerminator next text) : Fits next ⟨.newline, text⟩
  | blank : Fits next ⟨.space, " "⟩
  | tab : Fits next ⟨.space, "\t"⟩
  | colon : Fits next ⟨.colon, ":"⟩
  | semicolon : Fits next ⟨.semicolon, ";"⟩
  | arrow : Fits next ⟨.arrow, "->"⟩
  | word {cs : List Char} (ne_nil : cs ≠ []) (isWord : ∀ c ∈ cs, Text.isWord c = true)
      (longest : ∀ c ∈ next, Text.isWord c = false) : Fits next ⟨.word, String.ofList cs⟩
  | stray {c : Char} (alone : IsStray next c) : Fits next ⟨.word, String.ofList [c]⟩

namespace Lexeme

inductive Fits (next : Option Char) : Lexeme → Prop
  | token {t : Token} (fits : t.Fits next) : Fits next (.token t)
  | comment {cs : List Char} {terminator : String} (inside : ∀ c ∈ cs, isLineBreak c = false)
      (ended : IsTerminator next terminator) :
      Fits next (.comment (String.ofList ('/' :: '/' :: cs)) terminator)
  | lastComment {cs : List Char} (inside : ∀ c ∈ cs, isLineBreak c = false)
      (last : next = none) : Fits next (.comment (String.ofList ('/' :: '/' :: cs)) "")

/-- The text is made of these lexemes, each of which fits what comes behind it. -/
inductive Segmentation : List Char → List Lexeme → Prop
  | nil : Segmentation [] []
  | cons {l : Lexeme} {ls : List Lexeme} {rest : List Char} (fits : l.Fits rest.head?)
      (others : Segmentation rest ls) : Segmentation (l.text.toList ++ rest) (l :: ls)

variable {l : Lexeme} {ls : List Lexeme} {c : Char} {cs rest : List Char} {next : Option Char}
  {terminator : String}

/-! The lexeme that fits the front of a text is the first one that scanning takes. -/

theorem lineTerminator_of_isTerminator (whole : IsTerminator rest.head? terminator) :
    lineTerminator (terminator.toList ++ rest) = (terminator, rest) := by
  cases whole with
  | crlf | lf => rfl
  | cr whole =>
      change lineTerminator ('\r' :: rest) = _
      unfold lineTerminator
      split <;> simp_all

theorem isLineBreak_of_isTerminator (whole : IsTerminator next terminator) :
    ∃ c cs, terminator.toList = c :: cs ∧ isLineBreak c = true := by
  cases whole with
  | crlf => exact ⟨'\r', ['\n'], rfl, rfl⟩
  | lf => exact ⟨'\n', [], rfl, rfl⟩
  | cr _ => exact ⟨'\r', [], rfl, rfl⟩

theorem first_of_comment (inside : ∀ c ∈ cs, isLineBreak c = false)
    (stop : ∀ c ∈ rest.head?, isLineBreak c = true) :
    first '/' ('/' :: (cs ++ rest)) =
      (.comment (String.ofList ('/' :: '/' :: cs)) (lineTerminator rest).1,
        (lineTerminator rest).2) := by
  have pass : ∀ c ∈ cs, (!isLineBreak c) = true := by simpa using inside
  obtain ⟨taken, left⟩ := Text.run_of_stop (!isLineBreak ·) pass (by simpa using stop)
  simp only [first, taken, left]

theorem first_of_word (isWord : Text.isWord c = true) :
    first c cs = (.token ⟨.word, String.ofList (c :: cs.takeWhile Text.isWord)⟩,
      cs.dropWhile Text.isWord) := by
  have other : c ∉ ['/', '\r', '\n', ' ', '\t', ':', ';', '-'] :=
    Text.not_mem_of_isWord isWord (by decide)
  unfold first
  split <;> simp_all

theorem first_of_stray (alone : IsStray rest.head? c) :
    first c rest = (.token ⟨.word, String.ofList [c]⟩, rest) := by
  obtain ⟨not_word, not_mark, no_arrow, no_comment⟩ := alone
  unfold first
  split <;> simp_all

theorem Fits.first_eq (fits : l.Fits rest.head?) :
    ∃ c cs, l.text.toList ++ rest = c :: cs ∧ first c cs = (l, rest) := by
  cases fits with
  | token fits =>
      cases fits with
      | newline whole =>
          cases whole with
          | crlf => exact ⟨'\r', '\n' :: rest, rfl, rfl⟩
          | lf => exact ⟨'\n', rest, rfl, rfl⟩
          | cr whole =>
              refine ⟨'\r', rest, rfl, ?_⟩
              unfold first
              split <;> simp_all
      | blank => exact ⟨' ', rest, rfl, rfl⟩
      | tab => exact ⟨'\t', rest, rfl, rfl⟩
      | colon => exact ⟨':', rest, rfl, rfl⟩
      | semicolon => exact ⟨';', rest, rfl, rfl⟩
      | arrow => exact ⟨'-', '>' :: rest, rfl, rfl⟩
      | @word cs ne_nil isWord longest =>
          cases cs with
          | nil => contradiction
          | cons c cs =>
              obtain ⟨isWord, others⟩ := List.forall_mem_cons.1 isWord
              obtain ⟨taken, left⟩ := Text.run_of_stop Text.isWord others longest
              refine ⟨c, cs ++ rest, by simp [text], ?_⟩
              rw [first_of_word isWord, taken, left]
      | @stray c alone => exact ⟨c, rest, by simp [text], first_of_stray alone⟩
  | @comment cs terminator inside ended =>
      have stop : ∀ c ∈ (terminator.toList ++ rest).head?, isLineBreak c = true := by
        obtain ⟨c, cs, same, breaks⟩ := isLineBreak_of_isTerminator ended
        simp [same, breaks]
      refine ⟨'/', '/' :: (cs ++ (terminator.toList ++ rest)), by simp [text], ?_⟩
      rw [first_of_comment inside stop, lineTerminator_of_isTerminator ended]
  | @lastComment cs inside last =>
      cases List.head?_eq_none_iff.1 last
      refine ⟨'/', '/' :: (cs ++ []), by simp [text], ?_⟩
      rw [first_of_comment inside (by simp)]
      rfl

theorem Segmentation.scan_eq (segments : Segmentation cs ls) : scan cs = ls := by
  induction segments with
  | nil => rw [scan]
  | cons fits others ih =>
      obtain ⟨c, cs, same, first⟩ := fits.first_eq
      rw [same, scan, first, ih]

/-! Every lexeme that scanning takes fits. -/

theorem isTerminator_lineTerminator (stop : ∀ c ∈ rest.head?, isLineBreak c = true)
    (ne_nil : rest ≠ []) :
    IsTerminator (lineTerminator rest).2.head? (lineTerminator rest).1 := by
  unfold lineTerminator
  split
  case h_1 => exact .crlf
  case h_2 single =>
    refine .cr fun next => ?_
    obtain ⟨cs, same⟩ := List.head?_eq_some_iff.1 next
    exact single cs same
  case h_3 => exact .lf
  case h_4 no_cr no_lf =>
    obtain ⟨c, cs, rfl⟩ := List.exists_cons_of_ne_nil ne_nil
    have breaks : c = '\n' ∨ c = '\r' := by simpa [isLineBreak] using stop c rfl
    cases breaks with
    | inl same => exact (no_lf cs (by rw [same])).elim
    | inr same => exact (no_cr cs (by rw [same])).elim

/-- A text up to the first line break and from there on. -/
theorem exists_line (cs : List Char) : ∃ line rest, (∀ c ∈ line, isLineBreak c = false) ∧
    (∀ c ∈ rest.head?, isLineBreak c = true) ∧ cs = line ++ rest := by
  obtain ⟨line, rest, inside, stop, same⟩ := Text.exists_run (!isLineBreak ·) cs
  exact ⟨line, rest, by simpa using inside, by simpa using stop, same⟩

theorem fits_comment (cs : List Char) :
    (first '/' ('/' :: cs)).1.Fits (first '/' ('/' :: cs)).2.head? := by
  obtain ⟨line, rest, inside, stop, rfl⟩ := exists_line cs
  rw [first_of_comment inside stop]
  cases rest with
  | nil => exact .lastComment inside rfl
  | cons c rest => exact .comment inside (isTerminator_lineTerminator stop nofun)

theorem fits_first (c : Char) (cs : List Char) : (first c cs).1.Fits (first c cs).2.head? := by
  unfold first
  split
  case h_1 cs => exact fits_comment cs
  case h_2 => exact .token (.newline .crlf)
  case h_3 single =>
    refine .token (.newline (.cr fun next => ?_))
    obtain ⟨cs, same⟩ := List.head?_eq_some_iff.1 next
    exact single cs same
  case h_4 => exact .token (.newline .lf)
  case h_5 => exact .token .blank
  case h_6 => exact .token .tab
  case h_7 => exact .token .colon
  case h_8 => exact .token .semicolon
  case h_9 => exact .token .arrow
  case h_10 cr lf blank tab colon semicolon no_comment no_crlf no_arrow =>
    split
    case isTrue isWord =>
      refine .token (.word (List.cons_ne_nil _ _) ?_ (Text.head?_dropWhile Text.isWord cs))
      exact List.forall_mem_cons.2 ⟨isWord, List.all_eq_true.1 List.all_takeWhile⟩
    case isFalse other =>
      refine .token (.stray ⟨by simpa using other, ?_, ?_, ?_⟩)
      · simp only [List.mem_cons, List.not_mem_nil, or_false, not_or]
        exact ⟨cr, lf, blank, tab, colon, semicolon⟩
      · intro dash next
        obtain ⟨rest, same⟩ := List.head?_eq_some_iff.1 next
        exact no_arrow rest dash same
      · intro slash next
        obtain ⟨rest, same⟩ := List.head?_eq_some_iff.1 next
        exact no_comment rest slash same

theorem segmentation_scan (cs : List Char) : Segmentation cs (scan cs) := by
  fun_induction scan cs with
  | case1 => exact .nil
  | case2 c cs ih =>
      have segments := Segmentation.cons (fits_first c cs) ih
      rwa [text_first] at segments

theorem Segmentation.flatMap_text (segments : Segmentation cs ls) :
    ls.flatMap (·.text.toList) = cs := by
  induction segments with
  | nil => rfl
  | cons fits others ih => rw [List.flatMap_cons, ih]

theorem Segmentation.fits_at {before after : List Lexeme}
    (segments : Segmentation cs (before ++ l :: after)) :
    l.Fits (after.flatMap (·.text.toList)).head? := by
  induction before generalizing cs with
  | nil =>
      cases segments with
      | cons fits others => rwa [others.flatMap_text]
  | cons _ before ih =>
      cases segments with
      | cons _ others => exact ih others

/-- The part of a lexeme that tokens keep. -/
def kept (mode : CommentNewline) : Lexeme → String
  | .token t => t.text
  | .comment _ terminator =>
    match mode with
    | .swallow => ""
    | .keep => terminator

theorem flatMap_text_tokens (mode : CommentNewline) (l : Lexeme) :
    (l.tokens mode).flatMap (·.text.toList) = (l.kept mode).toList := by
  cases l with
  | token t => exact List.append_nil _
  | comment body terminator =>
      cases mode with
      | swallow => rfl
      | keep =>
          simp only [tokens, kept]
          split
          case isTrue empty => rw [empty]; rfl
          case isFalse => exact List.append_nil _

end Lexeme

namespace Token

variable {t : Token} {next : Option Char} {xs ys rest : List Char}

theorem Fits.kind_ne_eof (fits : t.Fits next) : t.kind ≠ .eof := by
  cases fits <;> exact nofun

/-- A slash is a token by itself, and no other slash stands behind it. -/
theorem Fits.slash (fits : t.Fits next) (mem : '/' ∈ t.text.toList) :
    t.text = "/" ∧ next ≠ some '/' := by
  cases fits with
  | newline whole => cases whole <;> exact absurd mem (by decide)
  | blank | tab | colon | semicolon | arrow => exact absurd mem (by decide)
  | word _ isWord _ =>
      rw [String.toList_ofList] at mem
      exact absurd (isWord '/' mem) (by decide)
  | stray alone =>
      rw [String.toList_ofList, List.mem_singleton] at mem
      subst mem
      exact ⟨rfl, alone.no_comment rfl⟩

/-- No comment starts inside a token. -/
theorem Fits.no_comment (fits : t.Fits rest.head?) (cut : t.text.toList = xs ++ ys)
    (slashes : ['/', '/'] <+: ys ++ rest) : ys = [] := by
  cases ys with
  | nil => rfl
  | cons c ys =>
      obtain ⟨rfl, second⟩ := List.cons_prefix_cons.1 slashes
      obtain ⟨single, no_slash⟩ := fits.slash (by simp [cut])
      have alone : xs ++ '/' :: ys = ['/'] := by rw [← cut, single]; rfl
      obtain ⟨rfl, single⟩ | ⟨_, impossible⟩ := List.append_eq_singleton_iff.1 alone
      · cases single
        obtain ⟨others, rfl⟩ := second
        exact (no_slash rfl).elim
      · contradiction

end Token

namespace Lexeme

variable {l : Lexeme} {ls : List Lexeme} {cs : List Char} {next : Option Char} {t : Token}

/-- A token is a lexeme of its own or the end of a comment. -/
theorem Fits.token_cases (fits : l.Fits next) (mode : CommentNewline) (mem : t ∈ l.tokens mode) :
    t.Fits next ∨ t.kind = .newline := by
  cases fits with
  | token fits =>
      cases List.mem_singleton.1 mem
      exact .inl fits
  | comment _ _ | lastComment _ _ =>
      cases mode with
      | swallow => contradiction
      | keep =>
          simp only [tokens] at mem
          split at mem
          · contradiction
          · cases List.mem_singleton.1 mem
            exact .inr rfl

theorem Fits.kind_ne_eof (fits : l.Fits next) (mode : CommentNewline) (mem : t ∈ l.tokens mode) :
    t.kind ≠ .eof := by
  cases fits.token_cases mode mem with
  | inl fits => exact fits.kind_ne_eof
  | inr newline =>
      rw [newline]
      exact nofun

theorem Segmentation.kind_ne_eof (segments : Segmentation cs ls) (mode : CommentNewline) :
    ∀ t ∈ ls.flatMap (·.tokens mode), t.kind ≠ .eof := by
  induction segments with
  | nil => exact nofun
  | cons fits others ih =>
      rw [List.flatMap_cons]
      exact List.forall_mem_append.2 ⟨fun t => fits.kind_ne_eof mode, ih⟩

end Lexeme

/-- Every text falls into lexemes in exactly one way, and nothing of it is lost. Two slashes outside
a comment start one. The tokens of the text are those of the lexemes and then the end of the input,
and they spell all that is no comment. -/
theorem Token.scan_segments (source : String) : ∃ ls, Lexeme.Segmentation source.toList ls ∧
    (∀ ls', Lexeme.Segmentation source.toList ls' → ls' = ls) ∧
    ls.flatMap (·.text.toList) = source.toList ∧
    (∀ before t after, ls = before ++ .token t :: after → ∀ xs ys, t.text.toList = xs ++ ys →
      ['/', '/'] <+: ys ++ after.flatMap (·.text.toList) → ys = []) ∧
    ∀ mode, ∃ ts, Token.scan mode source = ts ++ [Token.endOfInput] ∧
      (∀ t ∈ ts, t.kind ≠ .eof) ∧ ts = ls.flatMap (·.tokens mode) ∧
      ts.flatMap (·.text.toList) = ls.flatMap fun l => (l.kept mode).toList := by
  have segments := Lexeme.segmentation_scan source.toList
  refine ⟨_, segments, fun ls' segments' => segments'.scan_eq.symm, segments.flatMap_text, ?_, ?_⟩
  · intro before t after cut xs ys split slashes
    rw [cut] at segments
    cases segments.fits_at with
    | token fits => exact fits.no_comment split slashes
  · intro mode
    refine ⟨_, rfl, segments.kind_ne_eof mode, rfl, ?_⟩
    rw [List.flatMap_assoc]
    simp only [Lexeme.flatMap_text_tokens]

end SequenceChart
