import DeckFilter.Command.Options
import DeckFilter.Config.Load
import DeckFilter.Files.Tree
import DeckFilter.Filter
import DeckFilter.Log.Directive
import DeckFilter.Log.Report

/-!
# The command

A run of the command is a function of its arguments, its variables, its standard input and the files
around it. It opens its input, makes its output empty, and only then reads; so a run that fails on
its input leaves an empty output behind.

* `Invocation`, `Outcome`: what a run starts from, and what it leaves behind;
* `Logging`: where events go, as they happen;
* `Invocation.run`: the run.
-/

namespace DeckFilter

/-- What variables hold: texts, or bytes that need not be a text. -/
class HasBytes (Value : Type) where
  bytes : Value → ByteArray

instance : HasBytes String := ⟨String.toUTF8⟩

instance : HasBytes ByteArray := ⟨id⟩

/-- What a run starts from; its variables hold values of some kind. A line of the log starts with
the time stamp, if there is one. -/
structure Invocation (Value : Type) where
  arguments : List String
  bindings : List (String × Value)
  stdin : ByteArray
  tree : Tree
  stamp : Option String

/-- What a run leaves behind. -/
structure Outcome where
  status : Nat
  stdout : String
  stderr : String
  tree : Tree

namespace Outcome

/-- Nothing has happened yet. -/
def start (tree : Tree) : Outcome := ⟨0, "", "", tree⟩

/-- Print a text. -/
def print (s : String) (o : Outcome) : Outcome := { o with stdout := o.stdout ++ s }

/-- Print a text to standard error. -/
def complain (s : String) (o : Outcome) : Outcome := { o with stderr := o.stderr ++ s }

end Outcome

/-! ## Failures -/

/-- What went wrong, what caused it, what caused that, and so on. -/
structure Failure where
  message : String
  causes : List String
  deriving DecidableEq, Repr

/-- The failure of a run over a text. -/
def FilterError.failure (e : FilterError) : Failure := ⟨e.message, e.causes⟩

/-- The lines of a cause, indented, and behind a number if there is one. -/
def indented (number : Option Nat) (s : String) : String :=
  let (mark, margin) := match number with
    | some n => ("    " ++ toString n ++ ": ", "       ")
    | none => ("    ", "    ")
  mark ++ ("\n" ++ margin).intercalate (Text.pieces '\n' s)

/-- The report of a failure. Causes are numbered if there is more than one. -/
def Failure.text (f : Failure) : String :=
  let lines := match f.causes with
    | [] => []
    | [cause] => ["", "Caused by:", indented none cause]
    | causes => "" :: "Caused by:" :: causes.mapIdx fun n cause => indented (some n) cause
  "Error: " ++ "\n".intercalate (f.message :: lines) ++ "\n"

/-- The run ends with a failure. -/
def Outcome.fail (f : Failure) (o : Outcome) : Outcome :=
  { o.complain f.text with status := 1 }

/-! ## Logging -/

/-- Where events go: which of them are logged, and the file they are appended to, if it is not
standard error. -/
structure Logging where
  directives : List Log.Directive
  file : Option String
  stamp : Option String

namespace Logging

/-- The part of the program that logs. -/
def target : String := "beamer_filter"

/-- What is logged if nothing else is said: warnings, or all steps if there is a file for them. -/
def fallback (file : Option String) : List Log.Directive :=
  [.forTarget target (if file.isSome then 4 else 2)]

/-- The variable that says what is logged. -/
def variableName : String := "BEAMER_FILTER_LOG"

/-- Logging as the configuration and a variable say. -/
def ofConfig (config : Config) (directives : Option String) (stamp : Option String) : Logging :=
  ⟨(directives.bind Log.directives?).getD (fallback config.debugLog), config.debugLog, stamp⟩

/-- Log an event, at once. A file that cannot be written is no failure. -/
def emit (l : Logging) (o : Outcome) (e : Log.Event) : Outcome :=
  if !Log.enabled l.directives e then o
  else
    match l.file with
    | none => o.complain (e.line l.stamp)
    | some file =>
      match o.tree.append file (e.line l.stamp).toUTF8 with
      | .ok tree => { o with tree }
      | .error _ => o

/-- Log events one after the other. -/
def emitAll (l : Logging) (events : List Log.Event) (o : Outcome) : Outcome :=
  events.foldl l.emit o

/-- Take a step of the filter on the files as they are now, and log what it notes. So a log among
these files is seen as the steps before have left it. -/
def step {α : Type} (l : Logging) (setup : Files → Setup)
    (edit : Setup → StateM Context (Edit α)) : StateM (Context × Outcome) (Edit α) :=
  fun (ctx, o) =>
    let (answer, ctx) := (edit (setup o.tree.files)).run { ctx with log := [] }
    (answer, ctx, l.emitAll ctx.log o)

/-- The editor of a run that logs as it goes. -/
def editor (l : Logging) (setup : Files → Setup) : Editor (Context × Outcome) where
  inline x := l.step setup (Setup.editInline · x)
  block b := l.step setup (Setup.editBlock · b)

end Logging

/-! ## Running -/

namespace Invocation

variable {Value : Type} [HasBytes Value] (i : Invocation Value)

/-- The bytes of a variable. -/
def valueOf (name : String) : Option ByteArray := (i.bindings.lookup name).map HasBytes.bytes

/-- The variable that may name the configuration. -/
def configVariable : String := "BEAMER_FILTER_CONFIG"

/-- What is asked for. -/
def request : Except UsageError Request :=
  Request.ofArguments (i.valueOf configVariable) i.arguments

/-- The configuration of a run. All names of files are texts, so a name that is none names no
file. -/
def config (options : Options) : Except FilterError Config :=
  match options.config with
  | some name =>
    match String.fromUTF8? name with
    | some name => Config.load i.tree.files name
    | none => .error (.io FileError.notFound.message)
  | none => .ok .default

/-- Where the events of a run go. A list of directives that is no text counts for nothing. -/
def logging (config : Config) : Logging :=
  .ofConfig config ((i.valueOf Logging.variableName).bind String.fromUTF8?) i.stamp

/-- The environment of a run. -/
def environment (config : Config) : Environment := .ofVariables config i.valueOf

/-- The name that stands for standard input or output. -/
def standardName : String := "-"

/-- The event at the start of a run. -/
def startEvent (format : String) (environment : Environment) : Log.Event :=
  ⟨.debug, Logging.target, "starting filter",
    [("format", format), ("instructor", if environment.instructor then "true" else "false"),
      ("search_path", match environment.searchPath with
        | some path => "Some(" ++ Log.quoted path ++ ")"
        | none => "None")]⟩

/-- The events of a run before it opens its input. -/
def startEvents (options : Options) (config : Config) : List Log.Event :=
  Environment.events config i.valueOf ++ [startEvent options.format (i.environment config)]

/-- An input can be opened if it is there; even a directory can. -/
def openInput (tree : Tree) (name : String) : Except Failure Unit :=
  if name = standardName then .ok ()
  else
    match tree.lookup name with
    | .ok _ => .ok ()
    | .error e => .error ⟨"Failed to open input file " ++ name, [e.message]⟩

/-- An output that is a file is made empty. -/
def openOutput (tree : Tree) (name : String) : Except Failure Tree :=
  if name = standardName then .ok tree
  else (tree.write name .empty).mapError fun e =>
    ⟨"Failed to create output file " ++ name, [e.message]⟩

/-- The bytes of the input, if it can be read to its end. -/
def readInput (tree : Tree) (name : String) : Option ByteArray :=
  if name = standardName then some i.stdin else (tree.read name).toOption

/-- Write the output, from its start. -/
def writeOutput (name text : String) (o : Outcome) : Outcome :=
  if name = standardName then o.print text
  else
    match o.tree.overwrite name text.toUTF8 with
    | .ok tree => { o with tree }
    | .error e => o.fail (FilterError.io e.message).failure

/-- Filter and write a document, the output being open. -/
def filterDocument (options : Options) (config : Config) (l : Logging) (d : Document)
    (o : Outcome) : Outcome :=
  let editor := l.editor fun files => ⟨config, i.environment config, files⟩
  let o := l.emit o (readEvent options.format d)
  let (d, ctx, o) := Setup.walkWith editor d (Context.start options.format, o)
  let o := l.emit o (Setup.finishedEvent ctx.diagnostics.length)
  l.emitAll (ctx.diagnostics.map Diagnostic.event) (writeOutput options.output d.toJson.text o)

/-- Read, filter and write, the output being open. -/
def filter (options : Options) (config : Config) (l : Logging) (o : Outcome) : Outcome :=
  match readDocument (i.readInput o.tree options.input) with
  | .error e => o.fail (FilterError.unreadable e).failure
  | .ok d => i.filterDocument options config l d o

/-- Run with a configuration. -/
def runWith (options : Options) (config : Config) : Outcome :=
  if options.printConfig then (Outcome.start i.tree).print config.text
  else
    let l := i.logging config
    let o := l.emitAll (i.startEvents options config) (.start i.tree)
    match openInput o.tree options.input with
    | .error f => o.fail f
    | .ok () =>
      match openOutput o.tree options.output with
      | .error f => o.fail f
      | .ok tree => i.filter options config l { o with tree }

/-- The name and version of the command. -/
def versionText : String := "beamer-filter 0.1.0\n"

/-- How the command is used. -/
def usageText : String := "Usage: beamer-filter [OPTIONS] [TARGET_FORMAT]\n"

/-- What the command does and how it is used. -/
def helpText : String :=
  "Pandoc JSON filter for beamer slide decks\n\n" ++ usageText ++ "
Arguments:
  [TARGET_FORMAT]  Output format pandoc is writing [default: html]

Options:
  -i, --input <INPUT>    Read pandoc JSON from FILE ('-' for stdin) [default: -]
  -o, --output <OUTPUT>  Write pandoc JSON to FILE ('-' for stdout) [default: -]
  -c, --config <CONFIG>  YAML configuration file [env: BEAMER_FILTER_CONFIG]
      --print-config     Print the effective configuration as YAML and exit
  -h, --help             Print help
  -V, --version          Print version
"

/-- A run of the command. -/
def run : Outcome :=
  let o := Outcome.start i.tree
  match i.request with
  | .error e => { o.complain ("error: " ++ e.message ++ "\n\n" ++ usageText) with status := 2 }
  | .ok .help => o.print helpText
  | .ok .version => o.print versionText
  | .ok (.run options) =>
    match i.config options with
    | .error e => o.fail e.failure
    | .ok config => i.runWith options config

end Invocation

end DeckFilter
