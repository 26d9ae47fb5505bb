import SequenceChart.Canvas.Basic

/-!
A canvas as a JSON object with its dimensions and its rows. A writer puts the object together from
the texts of its parts. The writer of documents puts each member or element on a line of its own,
with two blanks for each level, and leaves an empty list on its line as it is.
-/

namespace SequenceChart

/-- How JSON is written. A list is put together from the texts of its elements, and an object from
its keys and the texts of their values; the level is the number of brackets around it. -/
structure JsonWriter where
  number : Nat → String
  string : String → String
  list (level : Nat) (elements : List String) : String
  object (level : Nat) (members : List (String × String)) : String

def JsonWriter.document (w : JsonWriter) (c : Canvas) : String :=
  w.object 0 [("width", w.number c.width), ("height", w.number c.height),
    ("rows", w.list 1 (c.rows.map w.string))]

namespace Document

/-- One character inside a JSON string. Only the quote, the backslash and the controls are
escaped. -/
def jsonChar (c : Char) : List Char :=
  match c with
  | '"' => ['\\', '"']
  | '\\' => ['\\', '\\']
  | '\x08' => ['\\', 'b']
  | '\t' => ['\\', 't']
  | '\n' => ['\\', 'n']
  | '\x0c' => ['\\', 'f']
  | '\r' => ['\\', 'r']
  | _ =>
    if c.toNat < 0x20 then
      ['\\', 'u'] ++ (Nat.toDigits 16 c.toNat).leftpad 4 '0'
    else
      [c]

def jsonString (s : String) : String :=
  String.ofList ('"' :: s.toList.flatMap jsonChar ++ ['"'])

def jsonIndent (level : Nat) : String :=
  String.ofList (List.replicate (2 * level) ' ')

/-- What stands between two brackets on this level: a line for each text, and the closing bracket's
line up to the bracket. -/
def jsonLines (level : Nat) (texts : List String) : String :=
  "\n" ++ ",\n".intercalate (texts.map (jsonIndent (level + 1) ++ ·)) ++ "\n" ++ jsonIndent level

/-- A member on its line. -/
def jsonMember (key text : String) : String :=
  key ++ ": " ++ text

/-- The writer of documents. -/
def jsonWriter : JsonWriter where
  number := toString
  string := jsonString
  list level
    | [] => "[]"
    | elements => "[" ++ jsonLines level elements ++ "]"
  object level
    | [] => "\x7b\x7d"
    | members =>
      "\x7b" ++ jsonLines level (members.map fun (key, text) => jsonMember (jsonString key) text) ++
        "\x7d"

def json (c : Canvas) : String :=
  jsonWriter.document c

end Document

end SequenceChart
