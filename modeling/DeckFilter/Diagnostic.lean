/-!
# Diagnostics

What a run has to say about a document that it could filter nevertheless.

* `Severity`, `Diagnostic`, `Diagnostic.text`: the messages;
* `Issue`: what can be wrong with a node, with `Issue.message` and `Issue.diagnostic`.
-/

namespace DeckFilter

/-- A fallback that is part of the rules is an information, everything else a warning. -/
inductive Severity where
  | warning
  | info
  deriving DecidableEq, Repr

/-- The name of a severity. -/
def Severity.name : Severity → String
  | warning => "Warning"
  | info => "Info"

/-- A message with its code, the problem in words and hints. -/
structure Diagnostic where
  code : Option String
  title : String
  severity : Severity
  problem : Option String
  hints : List String
  deriving DecidableEq, Repr

/-- A head line, the problem on its own lines, and a line for each hint. -/
def Diagnostic.text (d : Diagnostic) : String :=
  let code := match d.code with
    | some code => " [" ++ code ++ "]"
    | none => ""
  let problem := match d.problem with
    | some problem => "\n" ++ problem
    | none => ""
  d.severity.name ++ code ++ ": " ++ d.title ++ problem ++
    String.join (d.hints.map fun hint => "\n? " ++ hint)

/-! ## Issues -/

/-- What is wrong with a single node. It never ends a run. -/
inductive Issue where
  | malformedNode (tag reason : String)
  | sourceUnreadable (path reason : String)
  | sourceMissing (name : String)
  | unsupportedRole (role format rawFormat : String)
  | unknownRole (role : String)
  | unsupportedInline (tag : String)
  deriving DecidableEq, Repr

namespace Issue

/-- The issue in words. -/
def message : Issue → String
  | malformedNode tag reason => s!"Malformed {tag} node: {reason}"
  | sourceUnreadable path reason => s!"Could not read source file {path}: {reason}"
  | sourceMissing name => s!"Source file `{name}` not found"
  | unsupportedRole role format rawFormat =>
    s!"Role `{role}` produces raw {rawFormat} and cannot be used for format `{format}`"
  | unknownRole role => s!"Unknown role `{role}`, using the default role"
  | unsupportedInline tag => s!"Cannot flatten {tag} inline to plain text, ignoring it"

/-- The code of an issue. -/
def code : Issue → String
  | malformedNode _ _ => "B-1-1"
  | sourceUnreadable _ _ => "B-2-1"
  | sourceMissing _ => "B-2-2"
  | unsupportedRole _ _ _ => "B-3-1"
  | unknownRole _ => "B-3-2"
  | unsupportedInline _ => "B-4-1"

/-- The severity of an issue. -/
def severity : Issue → Severity
  | unknownRole _ => .info
  | unsupportedInline _ => .info
  | _ => .warning

/-- The title of an issue. -/
def title : Issue → String
  | malformedNode _ _ => "Malformed node"
  | sourceUnreadable _ _ => "Source file unreadable"
  | sourceMissing _ => "Source file not found"
  | unsupportedRole _ _ _ => "Role not supported for this format"
  | unknownRole _ => "Unknown role"
  | unsupportedInline _ => "Unsupported inline"

/-- What may help with an issue. -/
def hints : Issue → List String
  | sourceMissing _ => ["Is the path relative to the directory pandoc runs in?"]
  | unknownRole _ => ["Add the role to the `roles` table of the configuration?"]
  | _ => []

/-- The diagnostic of an issue. -/
def diagnostic (i : Issue) : Diagnostic :=
  ⟨some i.code, i.title, i.severity, some i.message, i.hints⟩

end Issue

end DeckFilter
