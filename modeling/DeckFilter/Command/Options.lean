/-!
# Command line

Arguments are taken from left to right, and the first fault ends that; asking for help or for the
version ends it as well.

* `Options`, `Request`: what a command line asks for;
* `UsageError`, `UsageError.message`: what can be wrong with it;
* `Request.ofArguments`: the request of a command line.
-/

namespace DeckFilter

/-- What a run works on. The name of the configuration is bytes, for a variable may give it. -/
structure Options where
  format : String
  input : String
  output : String
  config : Option ByteArray
  printConfig : Bool

/-- What a command line asks for. -/
inductive Request where
  | run (options : Options)
  | help
  | version

/-- What can be wrong with a command line. -/
inductive UsageError where
  | unknown (argument : String)
  | valueMissing (option : String)
  | valueEmpty (option : String)
  | valueGiven (option : String)
  | repeated (option : String)
  deriving DecidableEq, Repr

/-- The error in words. -/
def UsageError.message : UsageError → String
  | unknown argument => s!"unexpected argument '{argument}'"
  | valueMissing option => s!"a value is required for '{option}' but none was supplied"
  | valueEmpty option => s!"the value of '{option}' may not be empty"
  | valueGiven option => s!"'{option}' takes no value"
  | repeated option => s!"'{option}' cannot be used multiple times"

/-! ## What has been given so far -/

/-- The options that have a value. -/
inductive ValueOption where
  | input | output | config
  deriving DecidableEq, Repr

/-- The long name of an option. -/
def ValueOption.name : ValueOption → String
  | input => "input"
  | output => "output"
  | config => "config"

/-- What has been given so far. -/
structure Given where
  format : Option String
  values : List (ValueOption × String)
  printConfig : Bool

namespace Given

/-- Nothing yet. -/
def nothing : Given := ⟨none, [], false⟩

/-- The value of an option. -/
def value? (g : Given) (o : ValueOption) : Option String := g.values.lookup o

/-- A configuration has to have a name; all other values may be empty. -/
def checkValue (o : ValueOption) (value : ByteArray) : Except UsageError Unit :=
  if o = .config && value.isEmpty then .error (.valueEmpty o.name) else .ok ()

/-- One more value. -/
def setValue (g : Given) (o : ValueOption) (value : String) : Except UsageError Given := do
  if (g.value? o).isSome then throw (.repeated o.name)
  checkValue o value.toUTF8
  pure { g with values := (o, value) :: g.values }

/-- One more argument that belongs to no option. -/
def setFormat (g : Given) (value : String) : Except UsageError Given :=
  if g.format.isSome then .error (.unknown value) else .ok { g with format := some value }

/-- The configuration is to be printed. -/
def setPrintConfig (g : Given) : Except UsageError Given :=
  if g.printConfig then .error (.repeated "print-config") else .ok { g with printConfig := true }

/-- The options of a command line that is complete. A variable may name the configuration. -/
def options (g : Given) (configVariable : Option ByteArray) : Except UsageError Options := do
  let config := ((g.value? .config).map String.toUTF8).orElse fun _ => configVariable
  match config with
  | some name => checkValue .config name
  | none => pure ()
  pure ⟨g.format.getD "html", (g.value? .input).getD "-", (g.value? .output).getD "-", config,
    g.printConfig⟩

end Given

/-! ## Arguments -/

/-- What an argument is: a value, the end of the options, or an option with the value that is
written with it. -/
inductive Argument where
  | value (s : String)
  | endOfOptions
  | option (o : ValueOption) (attached : Option String)
  | printConfig
  | help
  | version

/-- An option by its long name. -/
def Argument.ofLong (name : List Char) (attached : Option String) :
    Except UsageError Argument :=
  let name := String.ofList name
  let flag (a : Argument) : Except UsageError Argument :=
    if attached.isSome then .error (.valueGiven name) else .ok a
  match name with
  | "input" => .ok (.option .input attached)
  | "output" => .ok (.option .output attached)
  | "config" => .ok (.option .config attached)
  | "print-config" => flag .printConfig
  | "help" => flag .help
  | "version" => flag .version
  | _ => .error (.unknown ("--" ++ name))

/-- The value that is written with an option of one letter; an equals sign may stand before it. -/
def attachedValue : List Char → Option String
  | [] => none
  | '=' :: cs => some (String.ofList cs)
  | cs => some (String.ofList cs)

/-- An option by its letter. -/
def Argument.ofShort (letter : Char) (rest : List Char) : Except UsageError Argument :=
  match letter with
  | 'i' => .ok (.option .input (attachedValue rest))
  | 'o' => .ok (.option .output (attachedValue rest))
  | 'c' => .ok (.option .config (attachedValue rest))
  | 'h' => .ok .help
  | 'V' => .ok .version
  | _ => .error (.unknown ("-" ++ letter.toString))

/-- The argument of a text. A single dash is a value. -/
def Argument.ofText (s : String) : Except UsageError Argument :=
  match s.toList with
  | ['-', '-'] => .ok endOfOptions
  | '-' :: '-' :: cs =>
    match cs.span (· != '=') with
    | (name, []) => ofLong name none
    | (name, _ :: attached) => ofLong name (some (String.ofList attached))
  | '-' :: letter :: rest => ofShort letter rest
  | _ => .ok (value s)

/-! ## Command lines -/

namespace Request

/-- Take in the arguments that are left, an option perhaps waiting for its value. -/
def take (configVariable : Option ByteArray) (g : Given) (waiting : Option ValueOption) :
    List String → Except UsageError Request
  | [] =>
    match waiting with
    | some o => .error (.valueMissing o.name)
    | none => (g.options configVariable).map .run
  | s :: rest => do
    match ← Argument.ofText s, waiting with
    | .value v, some o => take configVariable (← g.setValue o v) none rest
    | _, some o => throw (.valueMissing o.name)
    | .value v, none => take configVariable (← g.setFormat v) none rest
    | .endOfOptions, none => .run <$> (← rest.foldlM Given.setFormat g).options configVariable
    | .option o (some v), none => take configVariable (← g.setValue o v) none rest
    | .option o none, none => take configVariable g (some o) rest
    | .printConfig, none => take configVariable (← g.setPrintConfig) none rest
    | .help, none => pure .help
    | .version, none => pure .version

/-- The request of a command line, with the variable that may name the configuration. -/
def ofArguments (configVariable : Option ByteArray) (arguments : List String) :
    Except UsageError Request :=
  take configVariable .nothing none arguments

end Request

end DeckFilter
