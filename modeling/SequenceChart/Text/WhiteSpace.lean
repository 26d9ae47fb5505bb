import SequenceChart.Text.CodeRanges

/-!
White space, by the property White_Space, and the removal of it from the ends of a text.
-/

namespace SequenceChart.Text

/-- The characters with the property White_Space. -/
def whiteSpace : CodeRanges :=
  [(0x09, 0x0D), (0x20, 0x20), (0x85, 0x85), (0xA0, 0xA0), (0x1680, 0x1680), (0x2000, 0x200A),
   (0x2028, 0x2029), (0x202F, 0x202F), (0x205F, 0x205F), (0x3000, 0x3000)]

def isWhiteSpace (c : Char) : Bool :=
  whiteSpace.has c

/-- Leaves out the longest run at the end of a list whose members pass the test. -/
def dropTrailing {α : Type} (p : α → Bool) (xs : List α) : List α :=
  (xs.reverse.dropWhile p).reverse

/-- A text without the white space at its ends. -/
def trim (s : String) : String :=
  String.ofList (dropTrailing isWhiteSpace (s.toList.dropWhile isWhiteSpace))

end SequenceChart.Text
