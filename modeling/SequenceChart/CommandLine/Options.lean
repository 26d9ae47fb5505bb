import SequenceChart.Document.Format
import SequenceChart.Token.Scan

/-!
The arguments of the command line. Arguments are first read one by one as items, an option with
its value counting as one item; then the items are put together, and an item that may occur only
once is refused the second time. Neither step looks at the order of items of different kinds.
-/

namespace SequenceChart.CommandLine

inductive Item where
  | help
  | format (f : OutputFormat)
  | keepCommentNewlines
  | output (path : String)
  | verbose
  /-- A file to read, or standard input under the name `-`. -/
  | source (name : String)
  deriving DecidableEq, Repr

/-- Whether an argument names a source. Everything else that starts with a hyphen is an option. -/
def isSourceName (arg : String) : Bool :=
  arg == "-" || arg.toList.head? != some '-'

/-- The items of an argument list, or `none` where an argument is no item, an option lacks its value
or a format is unknown. The value of an option may be any text. -/
def itemsOf? : List String → Option (List Item)
  | [] => some []
  | arg :: rest =>
    if arg = "--help" ∨ arg = "-h" then
      (itemsOf? rest).map (.help :: ·)
    else if arg = "--keep-comment-newlines" then
      (itemsOf? rest).map (.keepCommentNewlines :: ·)
    else if arg = "--verbose" ∨ arg = "-v" then
      (itemsOf? rest).map (.verbose :: ·)
    else if arg = "--format" then
      match rest with
      | [] => none
      | value :: rest => do
        let f ← OutputFormat.ofName? value
        (itemsOf? rest).map (.format f :: ·)
    else if arg = "--output" ∨ arg = "-o" then
      match rest with
      | [] => none
      | value :: rest => (itemsOf? rest).map (.output value :: ·)
    else if isSourceName arg then
      (itemsOf? rest).map (.source arg :: ·)
    else
      none

/-- What the command line asks for. -/
structure Options where
  /-- The sources in the order of the arguments. -/
  sources : List String := []
  format : Option OutputFormat := none
  keepCommentNewlines : Bool := false
  output : Option String := none
  /-- Asks for a log of the stages. Otherwise what is written and how the command ends do not depend
  on it. -/
  verbose : Bool := false
  help : Bool := false
  deriving DecidableEq, Repr

namespace Options

/-- Takes in one more item. Only help and sources may be given again. -/
def add? (o : Options) : Item → Option Options
  | .help => some { o with help := true }
  | .format f => if o.format.isSome then none else some { o with format := some f }
  | .keepCommentNewlines =>
    if o.keepCommentNewlines then none else some { o with keepCommentNewlines := true }
  | .output path => if o.output.isSome then none else some { o with output := some path }
  | .verbose => if o.verbose then none else some { o with verbose := true }
  | .source name => some { o with sources := o.sources ++ [name] }

def ofItems? (items : List Item) : Option Options :=
  items.foldlM add? {}

def ofArgs? (args : List String) : Option Options := do
  ofItems? (← itemsOf? args)

/-- What the options make of the line terminators after comments. -/
def commentNewline (o : Options) : CommentNewline :=
  if o.keepCommentNewlines then .keep else .swallow

end Options

/-- How the command is used, for a program called by the given name. -/
def usage (program : String) : String :=
  Text.joinLines
    ["Usage:",
     s!"  {program} [FILE ...] [--format text|html|json] [--keep-comment-newlines] " ++
       "[--output FILE] [--verbose]",
     s!"  {program} --help",
     "",
     "With no FILE the diagram is read from stdin.",
     "Several files are compiled independently and printed in argument order, " ++
       "separated by a blank line.",
     "",
     "--keep-comment-newlines ends a statement at the line terminator after a `//` comment.",
     "--verbose logs pipeline stages to stderr.",
     ""]

end SequenceChart.CommandLine
