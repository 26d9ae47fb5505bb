import SequenceChart.Document.Html
import SequenceChart.Document.Json

/-!
The formats in which a canvas can be written, and the names under which they are asked for.
-/

namespace SequenceChart

inductive OutputFormat where
  | text
  | html
  | json
  deriving DecidableEq, Repr

namespace OutputFormat

/-- The format of choice where none is asked for. -/
instance : Inhabited OutputFormat := ⟨.text⟩

def name : OutputFormat → String
  | .text => "text"
  | .html => "html"
  | .json => "json"

/-- The format with the given name. White space around the name and the case of its ASCII letters
do not matter. -/
def ofName? (raw : String) : Option OutputFormat :=
  match String.ofList ((Text.trim raw).toList.map Char.toLower) with
  | "text" | "txt" => some .text
  | "html" => some .html
  | "json" => some .json
  | _ => none

/-- What is said about a name that no format has. -/
def unknownMessage (raw : String) : String :=
  "unknown output format '" ++ raw ++ "' (expected text, html or json)"

/-- Writes a canvas as a document of this format. -/
def write : OutputFormat → Canvas → String
  | .text, c => Document.text c
  | .html, c => Document.html c
  | .json, c => Document.json c

end OutputFormat

end SequenceChart
