import SequenceChart.Proofs.AllOrNothing
import SequenceChart.Proofs.Arguments

/-!
Several sources in one run. What the run prints is, on every lawful host, put together from what it
would print for each source alone: the documents where all of them compile, and otherwise the
messages of those that do not.
-/

namespace SequenceChart.CommandLine

open Text

open LawfulHost

/-- How a command ends on a host in a given state. -/
def outcome (m : Type → Type) {σ φ : Type} [Monad m] [Host m] [FileSystem φ] [LawfulHost m σ φ]
    (args : List String) (program : String) (w : σ) : Outcome :=
  (exec (run args program : m _) w).1

/-- The name stands for a file with a text in it. -/
def View.Readable {φ : Type} [FileSystem φ] (v : View φ) (name : String) : Prop :=
  ∃ text, FileSystem.read v.files name = .ok text

/-- What a run says on standard error behind the name of the program. -/
def Outcome.message (outcome : Outcome) : String :=
  String.ofList (outcome.stderr.toList.drop (programName ++ ": ").length)

/-- How the run of several sources follows from the run of each of them. -/
structure Composed (singles : List Outcome) (whole : Outcome) : Prop where
  status : whole.status = 0 ↔ ∀ single ∈ singles, single.status = 0
  printed : whole.status = 0 → whole.stdout = "\n".intercalate (singles.map Outcome.stdout)
  silent : whole.status ≠ 0 → whole.stdout = ""
  named : ∀ single ∈ singles, single.status ≠ 0 →
    single.stderr = programName ++ ": " ++ single.message
  reported : whole.status ≠ 0 → whole.stderr = programName ++ ": " ++
    String.join ((singles.filter (·.status ≠ 0)).map Outcome.message)

namespace Options

/-- These options ask for documents on standard output and nothing else. -/
structure Plain (o : Options) : Prop where
  output : o.output = none
  verbose : o.verbose = false
  help : o.help = false

/-- How the format and the treatment of comments are asked for. -/
def flags (o : Options) : List String :=
  (match o.format with
    | some f => ["--format", f.name]
    | none => []) ++ if o.keepCommentNewlines then ["--keep-comment-newlines"] else []

end Options

variable {m : Type → Type} {σ φ : Type} [Monad m] [Host m] [FileSystem φ] [LawfulHost m σ φ]
  {args : List String} {o : Options} {v : View φ} {w : σ} {program : String}
  {sources : List Source} {name : String} {names : List String}
  {results : List (Except String String)}

/-! Texts that end in a line feed. -/

theorem joinLines_append_feed (some_line : names ≠ []) :
    joinLines names ++ "\n" = String.join (names.map (· ++ "\n")) := by
  induction names with
  | nil => contradiction
  | cons line lines ih =>
      cases lines with
      | nil => simp [joinLines]
      | cons next lines =>
          have rest := ih (List.cons_ne_nil next lines)
          rw [List.map_cons, String.join_cons, ← rest, joinLines, joinLines,
            String.intercalate_cons_cons, String.append_assoc]

theorem documents_append_feed (some_line : names ≠ []) :
    "\n\n".intercalate names ++ "\n" = "\n".intercalate (names.map (· ++ "\n")) := by
  induction names with
  | nil => contradiction
  | cons line lines ih =>
      cases lines with
      | nil => simp
      | cons next lines =>
          have rest := ih (List.cons_ne_nil next lines)
          have feeds : ("\n\n" : String) = "\n" ++ "\n" := rfl
          rw [String.intercalate_cons_cons, String.append_assoc, rest, List.map_cons,
            List.map_cons, List.map_cons, String.intercalate_cons_cons, feeds]
          simp only [String.append_assoc]

/-! Results. -/

/-- What is made of the results of all sources. -/
def combined (results : List (Except String String)) : Except String String :=
  match failures results with
  | [] => .ok ("\n\n".intercalate (documents results) ++ "\n")
  | errors => .error (joinLines errors)

/-- How a run ends that prints its result. -/
def Outcome.ofResult : Except String String → Outcome
  | .ok document => .success document
  | .error e => .failure e

/-- How a run ends that has one result only. -/
def Outcome.alone (result : Except String String) : Outcome :=
  .ofResult (combined [result])

theorem alone_ok (document : String) :
    Outcome.alone (.ok document) = .success (document ++ "\n") := by
  simp [Outcome.alone, combined, failures, documents, Outcome.ofResult, Except.toOption]

theorem alone_error (e : String) : Outcome.alone (.error e) = .failure e := by
  simp [Outcome.alone, combined, failures, Outcome.ofResult, joinLines]

theorem stderr_failure (e : String) :
    (Outcome.failure e).stderr = programName ++ ": " ++ (e ++ "\n") :=
  String.append_assoc ..

theorem message_failure (e : String) : (Outcome.failure e).message = e ++ "\n" := by
  rw [Outcome.message, stderr_failure, String.toList_append, ← String.length_toList,
    List.drop_left, String.ofList_toList]

/-- Results without failures are documents. -/
theorem eq_documents_of_failures (none : failures results = []) :
    results = (documents results).map .ok := by
  induction results with
  | nil => rfl
  | cons result results ih =>
      cases result with
      | error e => contradiction
      | ok document => exact congrArg _ (ih none)

theorem messages_alone (results : List (Except String String)) :
    ((results.map Outcome.alone).filter (·.status ≠ 0)).map Outcome.message =
      (failures results).map (· ++ "\n") := by
  induction results with
  | nil => rfl
  | cons result results ih =>
      cases result with
      | ok document =>
          rw [List.map_cons, alone_ok]
          exact ih
      | error e =>
          rw [List.map_cons, alone_error]
          exact congr (congrArg _ (message_failure e)) ih

theorem named_alone (result : Except String String) (failed : (Outcome.alone result).status ≠ 0) :
    (Outcome.alone result).stderr = programName ++ ": " ++ (Outcome.alone result).message := by
  cases result with
  | ok document =>
      rw [alone_ok] at failed
      exact (failed rfl).elim
  | error e => rw [alone_error, stderr_failure, message_failure]

theorem composed_of_documents {documents : List String} (some_document : documents ≠ []) :
    Composed (documents.map fun document => .success (document ++ "\n"))
      (.success ("\n\n".intercalate documents ++ "\n")) where
  status := by simp [Outcome.success]
  printed _ := by
    rw [List.map_map]
    exact documents_append_feed some_document
  silent failed := (failed rfl).elim
  named := by simp [Outcome.success]
  reported failed := (failed rfl).elim

theorem composed_of_failures (failing : failures results ≠ []) :
    Composed (results.map Outcome.alone) (.failure (joinLines (failures results))) where
  status := by
    obtain ⟨e, mem⟩ := List.exists_mem_of_ne_nil _ failing
    obtain ⟨result, here, failed⟩ := List.mem_filterMap.1 mem
    cases result with
    | ok document => contradiction
    | error _ =>
        refine ⟨nofun, fun succeed => ?_⟩
        have single := succeed _ (List.mem_map_of_mem here)
        rw [alone_error] at single
        contradiction
  printed succeeded := by contradiction
  silent _ := rfl
  named := List.forall_mem_map.2 fun result _ => named_alone result
  reported _ := by rw [stderr_failure, joinLines_append_feed failing, messages_alone]

theorem combined_ok (ds : List String) :
    combined (ds.map .ok) = .ok ("\n\n".intercalate ds ++ "\n") := by
  have no_failure : failures (ds.map .ok) = [] := by simp [failures]
  have all : documents (ds.map .ok) = ds := by
    rw [documents, List.filterMap_map]
    exact List.filterMap_some
  rw [combined, no_failure, all]

theorem composed_alone (some_result : results ≠ []) :
    Composed (results.map Outcome.alone) (.ofResult (combined results)) := by
  by_cases errors : failures results = []
  · obtain ⟨ds, rfl⟩ : ∃ ds : List String, results = ds.map .ok :=
      ⟨documents results, eq_documents_of_failures errors⟩
    have singles : Outcome.alone ∘ Except.ok = fun d => .success (d ++ "\n") := funext alone_ok
    rw [combined_ok, List.map_map, singles]
    exact composed_of_documents (by simpa using some_result)
  · have blamed : combined results = .error (joinLines (failures results)) := by
      rw [combined]
      split
      · contradiction
      · rfl
    rw [blamed]
    exact composed_of_failures errors

/-! Runs. -/

/-- A file that can be read, and the text in it. -/
def Source.IsFile (v : View φ) (s : Source) : Prop :=
  s.name ≠ "-" ∧ v.source s.name = .ok s

theorem exists_files (files : ∀ name ∈ names, name.toList.head? ≠ some '-')
    (readable : ∀ name ∈ names, v.Readable name) :
    ∃ sources : List Source, names = sources.map Source.name ∧ ∀ s ∈ sources, s.IsFile v := by
  induction names with
  | nil => exact ⟨[], rfl, nofun⟩
  | cons name names ih =>
      obtain ⟨file, files⟩ := List.forall_mem_cons.1 files
      obtain ⟨⟨text, read⟩, readable⟩ := List.forall_mem_cons.1 readable
      obtain ⟨sources, rfl, isFile⟩ := ih files readable
      have other : name ≠ "-" := by
        rintro rfl
        exact file rfl
      have here : v.source name = .ok ⟨name, text⟩ := by rw [View.source, if_neg other, read]
      exact ⟨⟨name, text⟩ :: sources, rfl, List.forall_mem_cons.2 ⟨⟨other, here⟩, isFile⟩⟩

theorem readings_of_files (isFile : ∀ s ∈ sources, s.IsFile v) :
    v.readings (sources.map Source.name) = sources.map .ok := by
  induction sources with
  | nil => rfl
  | cons s sources ih =>
      obtain ⟨⟨other, read⟩, others⟩ := List.forall_mem_cons.1 isFile
      rw [List.map_cons, View.readings, View.behind, if_neg other, read, ih others, List.map_cons]

/-- Options that name files find the texts in them. -/
theorem Options.readings_of_files (some_source : sources ≠ [])
    (named : o.sources = sources.map Source.name) (isFile : ∀ s ∈ sources, s.IsFile v) :
    o.readings v = sources.map .ok := by
  rw [Options.readings, named]
  split
  · next none => exact (some_source (List.map_eq_nil_iff.1 none)).elim
  · exact CommandLine.readings_of_files isFile

theorem exec_readAll_of_readings (read : o.readings (view m w) = sources.map .ok) :
    (exec (readAll o : m _) w).1 = .ok sources := by
  rw [(exec_readAll o w).1]
  obtain ⟨others, again, ok⟩ | ⟨_, e, _, blamed, _⟩ := mapM_id_cases (o.readings (view m w))
  · rw [ok, eq_of_readings read again]
  · have found : .error e ∈ sources.map Except.ok := by simp [← read, blamed]
    simp at found

theorem outcome_of_readings (accepted : Options.ofArgs? args = some o) (plain : o.Plain)
    (read : o.readings (view m w) = sources.map .ok) : outcome m args program w =
      .ofResult (combined (sources.map
        (compileSource o.commentNewline (o.format.getD default)))) := by
  have no_log : (writeLog o sources : m _) = pure "" := by simp [writeLog, plain.verbose]
  rw [outcome, run, accepted]
  dsimp only
  rw [if_neg (by simp [plain.help]), runWith, exec_bind, exec_readAll_of_readings read]
  dsimp only
  rw [exec_bind, no_log, exec_pure, exec_bind, exec_pure, finish]
  change _ = Outcome.ofResult (compileSources o.commentNewline (o.format.getD default) sources)
  cases compileSources o.commentNewline (o.format.getD default) sources with
  | error e =>
      dsimp only
      rw [exec_pure]
      exact Outcome.behind_empty _
  | ok document =>
      dsimp only
      rw [deliver, plain.output]
      dsimp only
      rw [exec_pure]
      exact Outcome.behind_empty _

/-! Arguments. -/

theorem ofName?_name (f : OutputFormat) : OutputFormat.ofName? f.name = some f := by
  cases f <;> decide

theorem ofArgs?_flags (plain : o.Plain) (file : name.toList.head? ≠ some '-') :
    Options.ofArgs? (o.flags ++ [name]) = some { o with sources := [name] } := by
  obtain ⟨sources, format, keep, output, verbose, help⟩ := o
  obtain ⟨rfl, rfl, rfl⟩ := plain
  have source : Splits [name] [.source name] := .cons (.source (.inr file)) .nil
  cases format with
  | none =>
      cases keep with
      | false => exact Options.ofArgs?_eq source
      | true => exact Options.ofArgs?_eq (.cons .keepCommentNewlines source)
  | some f =>
      have known := ofName?_name f
      cases keep with
      | false => exact Options.ofArgs?_eq (.cons (.format known) source)
      | true => exact Options.ofArgs?_eq (.cons (.format known) (.cons .keepCommentNewlines source))

/-- A run of several files prints what the runs of each of them alone print that are given the same
options: all the documents, or all the messages where there are any. -/
theorem run_composed (m : Type → Type) {σ φ : Type} [Monad m] [Host m] [FileSystem φ]
    [LawfulHost m σ φ] {args : List String} {o : Options} (program : String) (w : σ)
    (accepted : Options.ofArgs? args = some o) (plain : o.Plain) (some_source : o.sources ≠ [])
    (files : ∀ name ∈ o.sources, name.toList.head? ≠ some '-')
    (readable : ∀ name ∈ o.sources, (view m w).Readable name) :
    (∀ name ∈ o.sources,
      Options.ofArgs? (o.flags ++ [name]) = some { o with sources := [name] }) ∧
    ∀ alone : String → List String,
      (∀ name ∈ o.sources, Options.ofArgs? (alone name) = some { o with sources := [name] }) →
        Composed (o.sources.map fun name => outcome m (alone name) program w)
          (outcome m args program w) := by
  refine ⟨fun name mem => ofArgs?_flags plain (files name mem), fun alone asked => ?_⟩
  obtain ⟨sources, named, isFile⟩ := exists_files files readable
  rw [named] at some_source asked
  have some_file : sources ≠ [] := mt List.map_eq_nil_iff.2 some_source
  have singles : ∀ s ∈ sources, outcome m (alone s.name) program w =
      .alone (compileSource o.commentNewline (o.format.getD default) s) := by
    intro s mem
    have single : ({ o with sources := [s.name] } : Options).readings (view m w) = [s].map .ok :=
      Options.readings_of_files (List.cons_ne_nil _ _) rfl (by simpa using isFile s mem)
    exact outcome_of_readings (asked s.name (List.mem_map_of_mem mem)) ⟨plain.1, plain.2, plain.3⟩
      single
  have same : (sources.map fun s => outcome m (alone s.name) program w) =
      (sources.map (compileSource o.commentNewline (o.format.getD default))).map .alone := by
    rw [List.map_map]
    exact List.map_congr_left singles
  have whole := Options.readings_of_files some_file named isFile
  rw [outcome_of_readings accepted plain whole, named, List.map_map]
  change Composed (sources.map fun s => outcome m (alone s.name) program w) _
  rw [same]
  exact composed_alone (mt List.map_eq_nil_iff.1 some_file)

/-- One of the three files is no chart, and another is named twice. -/
theorem run_composed_mixed : ∃ w : Workspace, ∃ o : Options,
    Options.ofArgs? ["b", "a", "--format", "json", "b"] = some o ∧
    (w.files.read "a").bind decodeUtf8 = .ok "loop x" ∧
    (w.files.read "b").bind decodeUtf8 = .ok "A->B" ∧
    Composed [outcome (StateM Workspace) ["--format", "json", "b"] "chart" w,
      outcome (StateM Workspace) ["--format", "json", "a"] "chart" w,
      outcome (StateM Workspace) ["--format", "json", "b"] "chart" w]
      (outcome (StateM Workspace) ["b", "a", "--format", "json", "b"] "chart" w) := by
  let w : Workspace := ⟨.empty, .ofFiles [("a", some "loop x".toUTF8), ("b", some "A->B".toUTF8)]⟩
  let o : Options := { sources := ["b", "a", "b"], format := some .json }
  have a : (w.files.read "a").bind decodeUtf8 = .ok "loop x" := by decide +kernel
  have b : (w.files.read "b").bind decodeUtf8 = .ok "A->B" := by decide +kernel
  have accepted : Options.ofArgs? ["b", "a", "--format", "json", "b"] = some o := by decide
  obtain ⟨singly, composed⟩ := run_composed (StateM Workspace) "chart" w accepted ⟨rfl, rfl, rfl⟩
    (by decide) (by decide)
    (List.forall_mem_cons.2 ⟨⟨_, b⟩, List.forall_mem_cons.2 ⟨⟨_, a⟩, by simpa using ⟨_, b⟩⟩⟩)
  exact ⟨w, o, accepted, a, b, composed (fun name => ["--format", "json", name]) singly⟩

end SequenceChart.CommandLine
