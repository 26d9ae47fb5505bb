import SequenceChart.Document.Text

/-!
A canvas as a preformatted block of HTML. The three characters that have a meaning of their own in
element content are written as entities.
-/

namespace SequenceChart.Document

def htmlOpening : String := "<pre class=\"seqgrid\">"

def htmlClosing : String := "</pre>"

def htmlChar (c : Char) : List Char :=
  match c with
  | '&' => "&amp;".toList
  | '<' => "&lt;".toList
  | '>' => "&gt;".toList
  | _ => [c]

def htmlText (s : String) : String :=
  String.ofList (s.toList.flatMap htmlChar)

def html (c : Canvas) : String :=
  htmlOpening ++ htmlText (text c) ++ htmlClosing

end SequenceChart.Document
