import DeckFilter.Document.DecodeError

/-!
# Failures

The parsers of JSON and of settings have words of their own for what is wrong with a text; an error
leaves them out.

* `FilterError`: why a run ends without a result, with `FilterError.message` and
  `FilterError.causes`.
-/

namespace DeckFilter

/-- Why a run ends without a result. -/
inductive FilterError where
  | io (reason : String)
  | unreadable (e : DecodeError)
  | unwritable (reason : String)
  | badConfig (origin : String)
  deriving DecidableEq, Repr

namespace FilterError

/-- The words of a parser, which are left out. -/
def parserWords : String := ""

/-- What an error was caused by, and what that was caused by in turn. -/
def causes : FilterError → List String
  | io reason => [reason]
  | unreadable .notJson => [DecodeError.notJson.message, parserWords]
  | unreadable e => [e.message]
  | unwritable reason => [reason]
  | badConfig _ => [parserWords]

/-- The error in words. -/
def message : FilterError → String
  | io reason => s!"IO error: {reason}"
  | unreadable e => s!"Failed to read pandoc JSON: {e.message}"
  | unwritable reason => s!"Failed to write pandoc JSON: {reason}"
  | badConfig origin => s!"Invalid configuration in {origin}: " ++ parserWords

end FilterError

end DeckFilter
