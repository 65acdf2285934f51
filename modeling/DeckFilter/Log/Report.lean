import DeckFilter.Config
import DeckFilter.Diagnostic
import DeckFilter.Log

/-!
# What is logged beside the steps of a filter

* `Diagnostic.event`: the event that tells of a diagnostic;
* `Environment.events`: the events of taking an environment.
-/

namespace DeckFilter

/-- The level of a severity. -/
def Severity.level : Severity → Log.Level
  | .warning => .warn
  | .info => .info

/-- The part of the program that tells of diagnostics. -/
def reportTarget : String := "beamer_filter::logging"

/-- The event that tells of a diagnostic. -/
def Diagnostic.event (d : Diagnostic) : Log.Event := ⟨d.severity.level, reportTarget, d.text, []⟩

/-- The part of the program that takes the environment. -/
def Environment.target : String := "beamer_filter::config"

/-- The events of taking an environment: a search path that is no text is told of. -/
def Environment.events (config : Config) (lookup : String → Option ByteArray) : List Log.Event :=
  match lookup config.searchPathVar with
  | some value =>
    if (String.fromUTF8? value).isSome then []
    else
      [⟨.warn, target, "ignoring search path that is not valid UTF-8",
        [("var", config.searchPathVar), ("value", Log.quotedBytes value)]⟩]
  | none => []

end DeckFilter
