import SequenceChart.CommandLine.Host
import SequenceChart.CommandLine.Options
import SequenceChart.Compile

/-!
The command: read all sources, compile all of them, write one document. A run that fails at any of
these writes nothing but the reason.
-/

namespace SequenceChart.CommandLine

/-- The name by which the command calls itself in messages, and in its usage unless it was called by
another one. -/
def programName : String := "seqgrid"

/-- How a run ends and what it prints. -/
structure Outcome where
  status : Nat
  stdout : String
  stderr : String
  deriving DecidableEq, Repr

namespace Outcome

def success (stdout : String) : Outcome := ⟨0, stdout, ""⟩

def help (program : String) : Outcome := ⟨0, "", usage program⟩

def misuse (program : String) : Outcome := ⟨2, "", usage program⟩

def failure (message : String) : Outcome := ⟨1, "", s!"{programName}: {message}\n"⟩

/-- The outcome of a run that has written a log before. -/
def behind (log : String) (outcome : Outcome) : Outcome :=
  { outcome with stderr := log ++ outcome.stderr }

end Outcome

/-- A text to compile and the name under which its errors are reported. -/
structure Source where
  name : String
  text : String
  deriving DecidableEq, Repr

section Reading

variable {m : Type → Type} [Monad m] [Host m]

/-- Reads standard input as the source of the given name. Its errors bear no name. -/
def readStdinAs (name : String) : m (Except String Source) := do
  match ← Host.readStdin with
  | .ok text => return .ok ⟨name, text⟩
  | .error e => return .error e.message

def readSource (name : String) : m (Except String Source) := do
  if name = "-" then
    readStdinAs name
  else
    match ← Host.readFile name with
    | .ok text => return .ok ⟨name, text⟩
    | .error e => return .error s!"{name}: {e.message}"

/-- Reads sources in order, up to the first that cannot be read. -/
def readSources : List String → m (Except String (List Source))
  | [] => return .ok []
  | name :: names => do
    match ← readSource name with
    | .error e => return .error e
    | .ok source =>
      match ← readSources names with
      | .error e => return .error e
      | .ok sources => return .ok (source :: sources)

/-- Reads all that the options name, or standard input where they name nothing. -/
def readAll (o : Options) : m (Except String (List Source)) :=
  match o.sources with
  | [] => return (← readStdinAs "<stdin>").map ([·])
  | names => readSources names

end Reading

/-- The document of one source, or its error with the name of the source. -/
def compileSource (mode : CommentNewline) (format : OutputFormat) (s : Source) :
    Except String String :=
  match compile mode s.text with
  | .ok compiled => .ok (format.write compiled.canvas)
  | .error e => .error s!"{s.name}: {e.message}"

def failures (results : List (Except String String)) : List String :=
  results.filterMap fun
    | .ok _ => none
    | .error e => some e

def documents (results : List (Except String String)) : List String :=
  results.filterMap Except.toOption

/-- All documents as one, separated by empty lines, or the errors of all sources that fail. -/
def compileSources (mode : CommentNewline) (format : OutputFormat) (sources : List Source) :
    Except String String :=
  let results := sources.map (compileSource mode format)
  match failures results with
  | [] => .ok ("\n\n".intercalate (documents results) ++ "\n")
  | errors => .error (Text.joinLines errors)

section Running

variable {m : Type → Type} [Monad m] [Host m]

/-- Puts the document where the options want it. -/
def deliver (o : Options) (document : String) : m Outcome :=
  match o.output with
  | none => return .success document
  | some path => do
    match ← Host.writeFile path document with
    | .ok () => return .success ""
    | .error e => return .failure s!"{path}: {e.message}"

/-- The stages of all compilations. -/
def Options.log (o : Options) (sources : List Source) : Log where
  format := o.format.getD default
  sources := sources.map fun s => ⟨s.text.utf8ByteSize, Stage.ofSource o.commentNewline s.text⟩

/-- The log of a run, if the options ask for one. -/
def writeLog (o : Options) (sources : List Source) : m String :=
  if o.verbose then Host.log (o.log sources) else return ""

/-- Compiles what has been read and delivers the document. -/
def finish (o : Options) (sources : List Source) : m Outcome :=
  match compileSources o.commentNewline (o.format.getD default) sources with
  | .error e => return .failure e
  | .ok document => deliver o document

/-- Runs the command with options that do not ask for help. -/
def runWith (o : Options) : m Outcome := do
  match ← readAll o with
  | .error e => return .failure e
  | .ok sources =>
    let log ← writeLog o sources
    return (← finish o sources).behind log

/-- Runs the command with the arguments that follow the name it was called by. -/
def run (args : List String) (program : String := programName) : m Outcome :=
  match Options.ofArgs? args with
  | none => pure (.misuse program)
  | some o => if o.help then pure (.help program) else runWith o

end Running

end SequenceChart.CommandLine
