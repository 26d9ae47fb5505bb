import SequenceChart.CommandLine.Host

/-!
What is known of a system that commands run on. Its files are known by their names, and a file that
is written changes alone; reading changes no file, and takes what it reads off standard input. How
names lead to files, who may read and write them and what else goes on in the system is left open.
-/

namespace SequenceChart.CommandLine

/-- Files that are known by names. A name leads to a place, and at a place there may be a file. More
than one name may lead to the same place. -/
class FileSystem (φ : Type) where
  Place : Type
  place? : φ → String → Option Place
  content? : φ → Place → Option ByteArray
  /-- What reading the named file gives. -/
  read : φ → String → Except SystemError String
  /-- The files after a text was written to the named one. -/
  write : φ → String → String → Except SystemError φ
  of_read {files : φ} {name text : String} (read : read files name = .ok text) :
    ∃ p bytes, place? files name = some p ∧ content? files p = some bytes ∧
      decodeUtf8 bytes = .ok text
  of_write {files files' : φ} {name text : String} (written : write files name text = .ok files') :
    ∃ p, place? files name = some p ∧ content? files' p = some text.toUTF8 ∧
      ∀ q, q ≠ p → content? files' q = content? files q

/-- What a command can see of a system. -/
structure View (φ : Type) where
  /-- What reading the rest of standard input gives. -/
  stdin : Except SystemError String
  files : φ

/-- Standard input is empty for whoever reads it next. -/
def View.withoutStdin {φ : Type} (v : View φ) : View φ :=
  { v with stdin := .ok "" }

/-- A system with states `σ` and files `φ` that commands can be followed on: executing a command in
a state gives its result and the next state. -/
class LawfulHost (m : Type → Type) (σ φ : outParam Type) [Monad m] [Host m] [FileSystem φ] where
  exec {α : Type} : m α → σ → α × σ
  view : σ → View φ
  exec_pure {α : Type} (a : α) (w : σ) : exec (pure a) w = (a, w)
  exec_bind {α β : Type} (x : m α) (f : α → m β) (w : σ) :
    exec (x >>= f) w = exec (f (exec x w).1) (exec x w).2
  readStdin_result (w : σ) : (exec Host.readStdin w).1 = (view w).stdin
  readStdin_files (w : σ) : (view (exec Host.readStdin w).2).files = (view w).files
  readStdin_view {w : σ} {text : String} (read : (view w).stdin = .ok text) :
    view (exec Host.readStdin w).2 = (view w).withoutStdin
  readFile_result (name : String) (w : σ) :
    (exec (Host.readFile name) w).1 = FileSystem.read (view w).files name
  readFile_view (name : String) (w : σ) : view (exec (Host.readFile name) w).2 = view w
  writeFile_ok {w : σ} {name text : String} {files : φ}
    (written : FileSystem.write (view w).files name text = .ok files) :
    (exec (Host.writeFile name text) w).1 = .ok () ∧
      (view (exec (Host.writeFile name text) w).2).files = files
  writeFile_error {w : σ} {name text : String} {e : SystemError}
    (refused : FileSystem.write (view w).files name text = .error e) :
    (exec (Host.writeFile name text) w).1 = .error e ∧
      (view (exec (Host.writeFile name text) w).2).files = (view w).files
  log_view (l : Log) (w : σ) : view (exec (Host.log l) w).2 = view w

end SequenceChart.CommandLine
