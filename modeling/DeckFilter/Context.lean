import DeckFilter.Diagnostic
import DeckFilter.Log

/-!
# The context of a run

* `Context`: the output format, and what has been reported and done so far;
* `Context.record`, `Context.note`: one more diagnostic or event;
* `Attempt`: a step that may fail with an issue.
-/

namespace DeckFilter

/-- The output format of a run, the diagnostics recorded so far and the events logged so far. -/
structure Context where
  format : String
  diagnostics : List Diagnostic
  log : List Log.Event

namespace Context

/-- The context at the start of a run. -/
def start (format : String) : Context := ⟨format, [], []⟩

/-- One more diagnostic. -/
def add (d : Diagnostic) (c : Context) : Context := { c with diagnostics := c.diagnostics ++ [d] }

/-- One more issue. -/
def record (i : Issue) (c : Context) : Context := c.add i.diagnostic

/-- One more event. -/
def note (e : Log.Event) (c : Context) : Context := { c with log := c.log ++ [e] }

end Context

/-- A step that may fail with an issue; what it has recorded by then stays. -/
abbrev Attempt (α : Type) := ExceptT Issue (StateM Context) α

/-- Record an issue and go on. -/
def report (i : Issue) : Attempt Unit := modify (Context.record i)

end DeckFilter
