import SequenceChart.CommandLine.Log

/-!
What the command needs from the system it runs on: standard input, files by name, and the wording
of its log. Reading and writing succeed or fail as a whole.
-/

namespace SequenceChart.CommandLine

/-- Why something cannot be read or written. -/
inductive SystemError where
  | noSuchFile
  | permissionDenied
  | notADirectory
  | isADirectory
  /-- The bytes are no UTF-8 text. -/
  | notUtf8
  /-- Any other reason, in the words of the system. -/
  | other (message : String)
  deriving DecidableEq, Repr

def SystemError.message : SystemError → String
  | .noSuchFile => "No such file or directory (os error 2)"
  | .permissionDenied => "Permission denied (os error 13)"
  | .notADirectory => "Not a directory (os error 20)"
  | .isADirectory => "Is a directory (os error 21)"
  | .notUtf8 => "stream did not contain valid UTF-8"
  | .other message => message

/-- A system that the command can run on. -/
class Host (m : Type → Type) where
  /-- Takes everything that is left of standard input. -/
  readStdin : m (Except SystemError String)
  readFile : String → m (Except SystemError String)
  /-- Gives a file a new content. A failure leaves all files as they were. -/
  writeFile : String → String → m (Except SystemError Unit)
  /-- Words a log. Sources are compiled at the same time, so what is reported of different ones may
  be mixed, and each line may bear its time. -/
  log : Log → m String

/-- The text that bytes spell in UTF-8. -/
def decodeUtf8 (bytes : ByteArray) : Except SystemError String :=
  match String.fromUTF8? bytes with
  | some text => .ok text
  | none => .error .notUtf8

end SequenceChart.CommandLine
