import SequenceChart.Compile
import SequenceChart.Document.Format

/-!
What a run reports on its way if it is asked to: how much it has to compile, and how far the
compilation of each source came. A report is made of numbers only; how it is worded is up to the
system.
-/

namespace SequenceChart.CommandLine

/-- A stage that a compilation has behind it. -/
inductive Stage where
  | parsed (tokens statements : Nat)
  | laidOut (participants statements width height : Nat)
  | drawn (width height : Nat)
  deriving DecidableEq, Repr

namespace Stage

/-- The stages of the compilation of a text, up to the one that fails. -/
def ofSource (mode : CommentNewline) (source : String) : List Stage :=
  match Program.ofSource mode source with
  | .error _ => []
  | .ok program =>
    let layout := Layout.ofDiagram program.diagram
    let drawing :=
      match layout.render program.diagram with
      | .error _ => []
      | .ok canvas => [.drawn canvas.width canvas.height]
    .parsed program.span.length program.entries.length ::
      .laidOut layout.columns.length layout.bands.length layout.width layout.height :: drawing

def text : Stage → String
  | .parsed tokens statements =>
    s!"parsed sequence program tokens={tokens} statements={statements}"
  | .laidOut participants statements width height =>
    s!"laid out sequence program participants={participants} statements={statements} " ++
      s!"width={width} height={height}"
  | .drawn width height => s!"rendered sequence grid width={width} height={height}"

/-- A compilation gets to its drawing exactly where it succeeds. -/
theorem exists_drawn_iff {mode : CommentNewline} {source : String} :
    (∃ width height, .drawn width height ∈ ofSource mode source) ↔
      ∃ compiled, compile mode source = .ok compiled := by
  rw [ofSource, compile]
  cases Program.ofSource mode source with
  | error e =>
      constructor
      · rintro ⟨_, _, drawn⟩
        contradiction
      · rintro ⟨_, compiled⟩
        contradiction
  | ok program =>
      have read : (Except.ok program).mapError CompileError.parse = .ok program := rfl
      have passed {β : Type} (f : Program → Except CompileError β) :
          (Except.ok program >>= f) = f program := rfl
      rw [read, passed]
      dsimp only
      cases (Layout.ofDiagram program.diagram).render program.diagram with
      | error e =>
          constructor
          · rintro ⟨_, _, drawn⟩
            simp at drawn
          · rintro ⟨_, compiled⟩
            contradiction
      | ok canvas => exact ⟨fun _ => ⟨_, rfl⟩, fun _ => ⟨canvas.width, canvas.height, by simp⟩⟩

end Stage

/-- How far the compilation of one source came. -/
structure SourceLog where
  /-- The length of the text in bytes. -/
  bytes : Nat
  stages : List Stage
  deriving DecidableEq, Repr

/-- All that a run has to report. -/
structure Log where
  format : OutputFormat
  /-- The sources in the order of the arguments. -/
  sources : List SourceLog
  deriving DecidableEq, Repr

namespace Log

/-- A log as lines, one source after the other. -/
def lines (l : Log) : List String :=
  s!"compiling inputs={l.sources.length} format=\"{l.format.name}\"" ::
    l.sources.flatMap fun s =>
      s.stages.map fun stage => s!"compile\x7bbytes={s.bytes}\x7d: {stage.text}"

def text (l : Log) : String :=
  String.join (l.lines.map (s!"DEBUG {·}\n"))

end Log

end SequenceChart.CommandLine
