import Mathlib.Data.List.Forall2
import SequenceChart.CommandLine.Run
import SequenceChart.Proofs.FileWrites

/-!
The command does all that it is asked for or nothing, on every lawful host. Either every source can
be read, every source compiles and the one document of them all is put in its place, or nothing is
printed and no file changes.
-/

namespace SequenceChart.CommandLine

open Text

/-! What there is to read. -/

namespace View

variable {φ : Type} [FileSystem φ]

/-- Standard input, taken as the source of the given name. -/
def stdinAs (v : View φ) (name : String) : Except String Source :=
  match v.stdin with
  | .ok text => .ok ⟨name, text⟩
  | .error e => .error e.message

/-- What reading the named source gives, where a hyphen stands for standard input. -/
def source (v : View φ) (name : String) : Except String Source :=
  if name = "-" then
    v.stdinAs name
  else
    match FileSystem.read v.files name with
    | .ok text => .ok ⟨name, text⟩
    | .error e => .error s!"{name}: {e.message}"

/-- What there is to read once a source was read. -/
def behind (v : View φ) (name : String) : View φ :=
  if name = "-" then v.withoutStdin else v

/-- What reading each of the named sources gives, whether or not those before it can be read. -/
def readings (v : View φ) : List String → List (Except String Source)
  | [] => []
  | name :: names => v.source name :: (v.behind name).readings names

omit [FileSystem φ] in
theorem files_behind (v : View φ) (name : String) : (v.behind name).files = v.files := by
  rw [behind]
  split <;> rfl

end View

namespace Options

/-- What reading each of the sources gives that the options ask for. -/
def readings {φ : Type} [FileSystem φ] (o : Options) (v : View φ) : List (Except String Source) :=
  match o.sources with
  | [] => [v.stdinAs "<stdin>"]
  | names => v.readings names

end Options

variable {m : Type → Type} {σ φ α ε : Type} [Monad m] [Host m] [FileSystem φ] [LawfulHost m σ φ]
  {v : View φ} {sources : List Source} {mode : CommentNewline} {format : OutputFormat} {o : Options}

open LawfulHost

/-! Reading. -/

/-- What comes of a command that reads: its result, files as they were, and after a success what
there is to read next. -/
structure Reads (x : m (Except String α)) (w : σ) (result : Except String α) (next : View φ) :
    Prop where
  gives : (exec x w).1 = result
  keeps : (view m (exec x w).2).files = (view m w).files
  leaves : ∀ a, result = .ok a → view m (exec x w).2 = next

theorem reads_stdinAs (name : String) (w : σ) :
    Reads (readStdinAs name : m _) w ((view m w).stdinAs name) (view m w).withoutStdin := by
  have result := readStdin_result (m := m) w
  have files := readStdin_files (m := m) w
  rw [View.stdinAs]
  cases stdin : (view m w).stdin with
  | error e =>
      rw [stdin] at result
      constructor <;> simp [readStdinAs, exec_bind, exec_pure, result, files]
  | ok text =>
      rw [stdin] at result
      have next := readStdin_view (m := m) stdin
      constructor <;> simp [readStdinAs, exec_bind, exec_pure, result, next, View.withoutStdin]

theorem reads_source (name : String) (w : σ) :
    Reads (readSource name : m _) w ((view m w).source name) ((view m w).behind name) := by
  rw [readSource, View.source, View.behind]
  split
  · exact reads_stdinAs name w
  · have result := readFile_result (m := m) name w
    have same := readFile_view (m := m) name w
    cases read : FileSystem.read (view m w).files name with
    | error e =>
        rw [read] at result
        constructor <;> simp [exec_bind, exec_pure, result, same]
    | ok text =>
        rw [read] at result
        constructor <;> simp [exec_bind, exec_pure, result, same]

theorem exec_readSources (names : List String) (w : σ) :
    (exec (readSources names : m _) w).1 = ((view m w).readings names).mapM id ∧
      (view m (exec (readSources names : m _) w).2).files = (view m w).files := by
  induction names generalizing w with
  | nil => simp [readSources, exec_pure, View.readings, pure, Except.pure]
  | cons name names ih =>
      have first := reads_source (m := m) name w
      rw [readSources, exec_bind, first.gives, View.readings, List.mapM_cons]
      cases read : (view m w).source name with
      | error e =>
          dsimp only
          rw [exec_pure]
          exact ⟨rfl, first.keeps⟩
      | ok source =>
          -- The others are read where the first one has been.
          obtain ⟨others, files⟩ := ih (exec (readSource name : m _) w).2
          rw [first.leaves source read] at others files
          rw [View.files_behind] at files
          dsimp only
          rw [exec_bind, others]
          cases ((view m w).behind name).readings names |>.mapM id with
          | error e =>
              dsimp only
              rw [exec_pure]
              exact ⟨rfl, files⟩
          | ok sources =>
              dsimp only
              rw [exec_pure]
              exact ⟨rfl, files⟩

/-- Either everything can be read, or the first that cannot be read is to blame. -/
theorem mapM_id_cases (results : List (Except ε α)) :
    (∃ as : List α, results = as.map .ok ∧ results.mapM id = .ok as) ∨
      ∃ (as : List α) (e : ε) (rest : List (Except ε α)),
        results = as.map .ok ++ .error e :: rest ∧ results.mapM id = .error e := by
  induction results with
  | nil => exact .inl ⟨[], rfl, rfl⟩
  | cons result results ih =>
      rw [List.mapM_cons]
      cases result with
      | error e => exact .inr ⟨[], e, results, rfl, rfl⟩
      | ok a =>
          obtain ⟨as, rfl, all⟩ | ⟨as, e, rest, rfl, first⟩ := ih
          · rw [all]
            exact .inl ⟨a :: as, rfl, rfl⟩
          · rw [first]
            exact .inr ⟨a :: as, e, rest, rfl, rfl⟩

/-! Compiling. -/

/-- What is said about a source that does not compile. -/
def report? (mode : CommentNewline) (s : Source) : Option String :=
  match compile mode s.text with
  | .ok _ => none
  | .error e => some s!"{s.name}: {e.message}"

/-- The source compiles to this document. -/
def CompilesTo (mode : CommentNewline) (format : OutputFormat) (s : Source) (document : String) :
    Prop :=
  ∃ compiled, compile mode s.text = .ok compiled ∧ document = format.write compiled.canvas

theorem failures_eq (mode : CommentNewline) (format : OutputFormat) (sources : List Source) :
    failures (sources.map (compileSource mode format)) = sources.filterMap (report? mode) := by
  rw [failures, List.filterMap_map]
  refine List.filterMap_congr fun s _ => ?_
  rw [Function.comp_apply, compileSource, report?]
  cases compile mode s.text <;> rfl

theorem documents_of_compiled (compiled : sources.filterMap (report? mode) = []) :
    List.Forall₂ (CompilesTo mode format) sources
      (documents (sources.map (compileSource mode format))) := by
  induction sources with
  | nil => exact .nil
  | cons s sources ih =>
      rw [List.filterMap_cons] at compiled
      rw [List.map_cons, documents, List.filterMap_cons, compileSource]
      rw [report?] at compiled
      cases result : compile mode s.text with
      | error e =>
          rw [result] at compiled
          contradiction
      | ok c =>
          rw [result] at compiled
          exact .cons ⟨c, result, rfl⟩ (ih compiled)

theorem compileSources_cases (mode : CommentNewline) (format : OutputFormat)
    (sources : List Source) :
    (sources.filterMap (report? mode) ≠ [] ∧
      compileSources mode format sources =
        .error (joinLines (sources.filterMap (report? mode)))) ∨
    (sources.filterMap (report? mode) = [] ∧
      ∃ documents, List.Forall₂ (CompilesTo mode format) sources documents ∧
        compileSources mode format sources = .ok ("\n\n".intercalate documents ++ "\n")) := by
  rw [compileSources, failures_eq]
  cases reports : sources.filterMap (report? mode) with
  | nil => exact .inr ⟨rfl, _, documents_of_compiled reports, rfl⟩
  | cons report reports => exact .inl ⟨List.cons_ne_nil _ _, rfl⟩

/-! Running. -/

/-- Every source can be read and compiled, and this is the one document of them all. -/
def Ready (o : Options) (v : View φ) (document : String) : Prop :=
  ∃ (sources : List Source) (documents : List String), o.readings v = sources.map .ok ∧
    List.Forall₂ (CompilesTo o.commentNewline (o.format.getD default)) sources documents ∧
    document = "\n\n".intercalate documents ++ "\n"

/-- All that can come of a run behind its log, with the files that are there afterwards. -/
inductive Ending (o : Options) (v : View φ) : Outcome → φ → Prop
  | uncompiled {sources : List Source} (read : o.readings v = sources.map .ok)
      (failing : sources.filterMap (report? o.commentNewline) ≠ []) :
      Ending o v (.failure (joinLines (sources.filterMap (report? o.commentNewline)))) v.files
  | printed {document : String} (ready : Ready o v document) (unnamed : o.output = none) :
      Ending o v (.success document) v.files
  | unwritten {document path : String} {e : SystemError} (ready : Ready o v document)
      (named : o.output = some path)
      (refused : FileSystem.write v.files path document = .error e) :
      Ending o v (.failure s!"{path}: {e.message}") v.files
  | written {document path : String} {files : φ} (ready : Ready o v document)
      (named : o.output = some path)
      (done : FileSystem.write v.files path document = .ok files) :
      Ending o v (.success "") files

theorem exec_readAll (o : Options) (w : σ) :
    (exec (readAll o : m _) w).1 = (o.readings (view m w)).mapM id ∧
      (view m (exec (readAll o : m _) w).2).files = (view m w).files := by
  rw [readAll, Options.readings]
  cases o.sources with
  | nil =>
      have only := reads_stdinAs (m := m) "<stdin>" w
      dsimp only
      rw [exec_bind, only.gives, exec_pure, List.mapM_cons]
      refine ⟨?_, only.keeps⟩
      cases (view m w).stdinAs "<stdin>" <;> rfl
  | cons name names => exact exec_readSources (name :: names) w

theorem deliver_ending {document : String} {w' : σ} (ready : Ready o v document)
    (files : (view m w').files = v.files) :
    Ending o v (exec (deliver o document : m _) w').1
      (view m (exec (deliver o document : m _) w').2).files := by
  rw [deliver]
  cases named : o.output with
  | none =>
      dsimp only
      rw [exec_pure, files]
      exact .printed ready named
  | some path =>
      dsimp only
      rw [exec_bind]
      cases done : FileSystem.write v.files path document with
      | error e =>
          obtain ⟨result, same⟩ := writeFile_error (m := m) (files ▸ done)
          rw [result]
          dsimp only
          rw [exec_pure, same, files]
          exact .unwritten ready named done
      | ok files' =>
          obtain ⟨result, changed⟩ := writeFile_ok (m := m) (files ▸ done)
          rw [result]
          dsimp only
          rw [exec_pure, changed]
          exact .written ready named done

theorem finish_ending {w' : σ} (read : o.readings v = sources.map .ok)
    (files : (view m w').files = v.files) :
    Ending o v (exec (finish o sources : m _) w').1
      (view m (exec (finish o sources : m _) w').2).files := by
  rw [finish]
  obtain ⟨failing, reports⟩ | ⟨_, documents, compiled, whole⟩ :=
    compileSources_cases o.commentNewline (o.format.getD default) sources
  · rw [reports]
    dsimp only
    rw [exec_pure, files]
    exact .uncompiled read failing
  · rw [whole]
    exact deliver_ending ⟨sources, documents, read, compiled, rfl⟩ files

/-- What a run has logged: nothing unless it was asked to, and otherwise what the system makes of
the reports on all sources, once they are read. -/
inductive Logged (m : Type → Type) {σ φ : Type} [Monad m] [Host m] [FileSystem φ]
    [LawfulHost m σ φ] (o : Options) (v : View φ) : String → Prop
  | silent (unasked : o.verbose = false) : Logged m o v ""
  | unread {e : String} (found : .error e ∈ o.readings v) : Logged m o v ""
  | told {sources : List Source} (asked : o.verbose = true)
      (read : o.readings v = sources.map .ok) (w : σ) (files : (view m w).files = v.files) :
      Logged m o v (exec (Host.log (o.log sources) : m _) w).1

theorem writeLog_logged {w' : σ} (read : o.readings v = sources.map .ok)
    (files : (view m w').files = v.files) :
    Logged m o v (exec (writeLog o sources : m _) w').1 ∧
      (view m (exec (writeLog o sources : m _) w').2).files = v.files := by
  rw [writeLog]
  split
  · next asked =>
      rw [log_view]
      exact ⟨.told asked read w' files, files⟩
  · next unasked =>
      rw [exec_pure]
      exact ⟨.silent (Bool.eq_false_iff.2 unasked), files⟩

theorem runWith_cases (o : Options) (w : σ) :
    (∃ e, .error e ∈ o.readings (view m w) ∧ (exec (runWith o : m _) w).1 = .failure e ∧
      (view m (exec (runWith o : m _) w).2).files = (view m w).files) ∨
    ∃ log outcome, Logged m o (view m w) log ∧
      (exec (runWith o : m _) w).1 = outcome.behind log ∧
      Ending o (view m w) outcome (view m (exec (runWith o : m _) w).2).files := by
  obtain ⟨result, files⟩ := exec_readAll (m := m) o w
  rw [runWith, exec_bind]
  obtain ⟨sources, all, ok⟩ | ⟨sources, e, rest, first, error⟩ :=
    mapM_id_cases (o.readings (view m w))
  · refine .inr ?_
    rw [result, ok]
    dsimp only
    obtain ⟨logged, kept⟩ := writeLog_logged all files
    have ending := finish_ending all kept
    rw [exec_bind, exec_bind, exec_pure]
    exact ⟨_, _, logged, rfl, ending⟩
  · refine .inl ⟨e, by simp [first], ?_⟩
    rw [result, error]
    dsimp only
    rw [exec_pure]
    exact ⟨rfl, files⟩

/-! The whole command. -/

/-- What keeps a run from its document. -/
inductive Obstacle (o : Options) (v : View φ) : Prop
  | unreadable {e : String} (found : .error e ∈ o.readings v)
  | uncompiled {s : Source} {e : CompileError} (read : .ok s ∈ o.readings v)
      (refused : compile o.commentNewline s.text = .error e)
  | unwritable {document path : String} {e : SystemError} (ready : Ready o v document)
      (named : o.output = some path)
      (refused : FileSystem.write v.files path document = .error e)

/-- The document is printed and no file changes, or else it is the content of the output file, no
other file changes and nothing is printed. -/
def Delivered (output : Option String) (document stdout : String) (before after : φ) : Prop :=
  match output with
  | none => stdout = document ∧ after = before
  | some path => stdout = "" ∧ ∃ p, FileSystem.place? before path = some p ∧
      FileSystem.content? after p = some document.toUTF8 ∧
      ∀ q, q ≠ p → FileSystem.content? after q = FileSystem.content? before q

theorem report?_of_compiled {s : Source} {c : Compiled} (compiled : compile mode s.text = .ok c) :
    report? mode s = none := by
  rw [report?, compiled]

theorem report?_of_failed {s : Source} {e : CompileError}
    (failed : compile mode s.text = .error e) :
    report? mode s = some s!"{s.name}: {e.message}" := by
  rw [report?, failed]

theorem failing_iff : sources.filterMap (report? mode) ≠ [] ↔
    ∃ s ∈ sources, ∃ e, compile mode s.text = .error e := by
  constructor
  · intro failing
    obtain ⟨report, mem⟩ := List.exists_mem_of_ne_nil _ failing
    obtain ⟨s, here, reported⟩ := List.mem_filterMap.1 mem
    refine ⟨s, here, ?_⟩
    cases result : compile mode s.text with
    | error e => exact ⟨e, rfl⟩
    | ok c =>
        rw [report?_of_compiled result] at reported
        contradiction
  · rintro ⟨s, here, e, failed⟩
    exact List.ne_nil_of_mem (List.mem_filterMap.2 ⟨s, here, report?_of_failed failed⟩)

theorem all_compiled {documents : List String}
    (compiled : List.Forall₂ (CompilesTo mode format) sources documents) :
    ¬∃ s ∈ sources, ∃ e, compile mode s.text = .error e := by
  rintro ⟨s, here, e, failed⟩
  induction compiled with
  | nil => contradiction
  | cons made _ ih =>
      cases here with
      | head =>
          obtain ⟨c, result, _⟩ := made
          rw [failed] at result
          contradiction
      | tail _ later => exact ih later

theorem eq_of_readings {others : List Source} (read : o.readings v = sources.map .ok)
    (again : o.readings v = others.map .ok) : others = sources := by
  rw [again] at read
  exact List.map_injective_iff.2 (fun _ _ => Except.ok.inj) read

theorem documents_unique {documents others : List String}
    (compiled : List.Forall₂ (CompilesTo mode format) sources documents)
    (again : List.Forall₂ (CompilesTo mode format) sources others) : others = documents := by
  induction compiled generalizing others with
  | nil =>
      cases again
      rfl
  | cons made _ ih =>
      obtain _ | ⟨made', rest⟩ := again
      obtain ⟨c, result, rfl⟩ := made
      obtain ⟨c', result', rfl⟩ := made'
      cases result.symm.trans result'
      rw [ih rest]

/-- There is only one document. -/
theorem Ready.unique {document other : String} (ready : Ready o v document)
    (again : Ready o v other) : other = document := by
  obtain ⟨sources, documents, read, compiled, rfl⟩ := ready
  obtain ⟨sources', documents', read', compiled', rfl⟩ := again
  cases eq_of_readings read read'
  rw [documents_unique compiled compiled']

theorem Ready.no_obstacle {document : String} (ready : Ready o v document)
    (writable : ∀ path, o.output = some path → ∃ files,
      FileSystem.write v.files path document = .ok files) : ¬Obstacle o v := by
  rintro (found | ⟨found, refused⟩ | ⟨again, named, refused⟩)
  · obtain ⟨sources, documents, read, _⟩ := ready
    rw [read] at found
    simp at found
  · obtain ⟨sources, documents, read, compiled, _⟩ := ready
    rw [read] at found
    exact all_compiled compiled ⟨_, by simpa using found, _, refused⟩
  · obtain ⟨files, done⟩ := writable _ named
    rw [ready.unique again, done] at refused
    contradiction

/-- How a run ends that does not ask for help and has written the given log. -/
structure Settled (o : Options) (v : View φ) (log : String) (outcome : Outcome) (files : φ) :
    Prop where
  status : outcome.status = 0 ∨ outcome.status = 1
  failure : outcome.status = 1 ↔ Obstacle o v
  nothing : outcome.status = 1 → outcome.stdout = "" ∧ files = v.files
  complaint : outcome.status = 1 → ∃ message : String,
    outcome.stderr = log ++ s!"{programName}: {message}\n"
  /-- All sources that fail to compile are reported, in order, and no others. -/
  reports : ∀ sources : List Source, o.readings v = sources.map .ok →
    (∃ s ∈ sources, ∃ e, compile o.commentNewline s.text = .error e) → outcome.stderr =
      log ++ s!"{programName}: {joinLines (sources.filterMap (report? o.commentNewline))}\n"
  document : outcome.status = 0 → outcome.stderr = log ∧ ∃ document, Ready o v document ∧
    Delivered o.output document outcome.stdout v.files files

theorem settled_failure {message log : String} (obstacle : Obstacle o v)
    (reports : ∀ sources : List Source, o.readings v = sources.map .ok →
      (∃ s ∈ sources, ∃ e, compile o.commentNewline s.text = .error e) →
        message = joinLines (sources.filterMap (report? o.commentNewline))) :
    Settled o v log ((Outcome.failure message).behind log) v.files where
  status := .inr rfl
  failure := ⟨fun _ => obstacle, fun _ => rfl⟩
  nothing _ := ⟨rfl, rfl⟩
  complaint _ := ⟨message, rfl⟩
  reports sources read failing := by rw [← reports sources read failing]; rfl
  document zero := by contradiction

theorem settled_success {document stdout log : String} {files : φ} (ready : Ready o v document)
    (clear : ¬Obstacle o v) (delivered : Delivered o.output document stdout v.files files) :
    Settled o v log ((Outcome.success stdout).behind log) files where
  status := .inl rfl
  failure := ⟨fun one => by contradiction, clear.elim⟩
  nothing one := by contradiction
  complaint one := by contradiction
  reports sources read failing := by
    obtain ⟨s, mem, e, refused⟩ := failing
    exact (clear (.uncompiled (by simpa [read] using mem) refused)).elim
  document _ := ⟨String.append_empty, document, ready, delivered⟩

theorem Outcome.behind_empty (outcome : Outcome) : outcome.behind "" = outcome := by
  rw [behind, String.empty_append]

theorem settled_unread {e : String} (found : .error e ∈ o.readings v) :
    Settled o v "" (.failure e) v.files := by
  rw [← Outcome.behind_empty (.failure e)]
  refine settled_failure (.unreadable found) fun sources read => ?_
  simp [read] at found

theorem Ending.settled {outcome : Outcome} {files : φ} (ending : Ending o v outcome files)
    (log : String) : Settled o v log (outcome.behind log) files := by
  cases ending with
  | uncompiled read failing =>
      obtain ⟨s, here, e, failed⟩ := failing_iff.1 failing
      refine settled_failure (.uncompiled (by simpa [read] using here) failed) ?_
      intro others again _
      rw [eq_of_readings read again]
  | printed ready unnamed =>
      refine settled_success ready (ready.no_obstacle ?_) ?_
      · simp [unnamed]
      · simp [Delivered, unnamed]
  | unwritten ready named refused =>
      refine settled_failure (.unwritable ready named refused) fun sources read failing => ?_
      obtain ⟨_, _, read', compiled, _⟩ := ready
      cases eq_of_readings read read'
      exact (all_compiled compiled failing).elim
  | written ready named done =>
      refine settled_success ready (ready.no_obstacle ?_) ?_
      · intro path again
        cases named.symm.trans again
        exact ⟨_, done⟩
      · simpa [Delivered, named] using FileSystem.of_write done

/-- What comes of a command that was called by the given name, all or nothing. -/
structure AllOrNothing (m : Type → Type) {σ φ : Type} [Monad m] [Host m] [FileSystem φ]
    [LawfulHost m σ φ] (args : List String) (program : String) (w : σ) (outcome : Outcome)
    (after : σ) : Prop where
  misuse : outcome.status = 2 ↔ Options.ofArgs? args = none
  /-- Refused arguments ask nothing of any system. -/
  untouched : Options.ofArgs? args = none → outcome = ⟨2, "", usage program⟩ ∧ after = w ∧
    ∀ (n : Type → Type) [Monad n] [Host n], (run args program : n Outcome) = pure outcome
  help : ∀ o, Options.ofArgs? args = some o → o.help = true →
    outcome = ⟨0, "", usage program⟩ ∧ after = w
  nothing : outcome.status ≠ 0 → outcome.stdout = "" ∧ (view m after).files = (view m w).files
  settled : ∀ o, Options.ofArgs? args = some o → o.help = false → ∃ log,
    Logged m o (view m w) log ∧ Settled o (view m w) log outcome (view m after).files

variable {args : List String} {program : String}

theorem allOrNothing_misuse (w : σ) (refused : Options.ofArgs? args = none) :
    AllOrNothing m args program w (.misuse program) w where
  misuse := ⟨fun _ => refused, fun _ => rfl⟩
  untouched _ := ⟨rfl, rfl, fun n _ _ => by rw [run, refused]⟩
  help o accepted _ := by simp [refused] at accepted
  nothing _ := ⟨rfl, rfl⟩
  settled o accepted _ := by simp [refused] at accepted

theorem allOrNothing_help (w : σ) (accepted : Options.ofArgs? args = some o)
    (asked : o.help = true) : AllOrNothing m args program w (.help program) w where
  misuse := ⟨fun two => by contradiction, fun refused => by simp [accepted] at refused⟩
  untouched refused := by simp [accepted] at refused
  help _ _ _ := ⟨rfl, rfl⟩
  nothing failed := (failed rfl).elim
  settled o' again unasked := by
    cases accepted.symm.trans again
    simp [asked] at unasked

theorem Settled.allOrNothing {outcome : Outcome} {w after : σ} {log : String}
    (settled : Settled o (view m w) log outcome (view m after).files)
    (logged : Logged m o (view m w) log) (accepted : Options.ofArgs? args = some o)
    (unasked : o.help = false) : AllOrNothing m args program w outcome after where
  misuse := by
    refine ⟨fun two => ?_, fun refused => by simp [accepted] at refused⟩
    cases settled.status with
    | inl zero => simp [two] at zero
    | inr one => simp [two] at one
  untouched refused := by simp [accepted] at refused
  help o' again asked := by
    cases accepted.symm.trans again
    simp [unasked] at asked
  nothing failed := settled.nothing (settled.status.resolve_left failed)
  settled o' again _ := by
    cases accepted.symm.trans again
    exact ⟨log, logged, settled⟩

/-- On every lawful host, a command does all that it is asked for or nothing. -/
theorem run_all_or_nothing (m : Type → Type) {σ φ : Type} [Monad m] [Host m] [FileSystem φ]
    [LawfulHost m σ φ] (args : List String) (program : String) (w : σ) :
    AllOrNothing m args program w (exec (run args program : m _) w).1
      (exec (run args program : m _) w).2 := by
  rw [run]
  cases parsed : Options.ofArgs? args with
  | none =>
      dsimp only
      rw [exec_pure]
      exact allOrNothing_misuse w parsed
  | some o =>
      dsimp only
      split
      · next asked =>
          rw [exec_pure]
          exact allOrNothing_help w parsed asked
      · next unasked =>
          rw [Bool.not_eq_true] at unasked
          obtain ⟨e, found, result, files⟩ | ⟨log, outcome, logged, result, ending⟩ :=
            runWith_cases (m := m) o w
          · have settled := settled_unread found
            rw [← result, ← files] at settled
            exact settled.allOrNothing (.unread found) parsed unasked
          · have settled := ending.settled log
            rw [← result] at settled
            exact settled.allOrNothing logged parsed unasked

/-- A log is asked for, and the document goes to another directory. With a source more that is no
chart it does not get there. -/
theorem run_all_or_nothing_elsewhere : ∃ w : Workspace,
    let run (args : List String) := (run args "./chart" : StateM Workspace _).run w
    let args := ["-v", "--output", "/tmp/out", "a"]
    let good := run args
    let bad := run (args ++ ["b"])
    (AllOrNothing (StateM Workspace) args "./chart" w good.1 good.2 ∧
      good.1.status = 0 ∧ good.2.files.content? ["tmp", "out"] = some "\n\n\n\n".toUTF8) ∧
    AllOrNothing (StateM Workspace) (args ++ ["b"]) "./chart" w bad.1 bad.2 ∧
      bad.1.status = 1 ∧ bad.2.files.content? ["tmp", "out"] = none := by
  let w : Workspace := ⟨.empty, [(["tmp"], .directory {}), (["work", "a"], .file .empty {}),
    (["work", "b"], .file "loop x".toUTF8 {})], ["work"]⟩
  refine ⟨w, ⟨run_all_or_nothing (StateM Workspace) _ _ w, ?_, ?_⟩,
    run_all_or_nothing (StateM Workspace) _ _ w, ?_, ?_⟩
  all_goals decide +kernel

end SequenceChart.CommandLine
