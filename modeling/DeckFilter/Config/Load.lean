import DeckFilter.Config.Text
import DeckFilter.Files
import DeckFilter.FilterError

/-!
# Loading a configuration

* `Config.load`: the configuration in a file, or why there is none.
-/

namespace DeckFilter

/-- The configuration in a file. -/
def Config.load (files : Files) (name : String) : Except FilterError Config := do
  let text ← (files.readText name).mapError fun e => .io e.message
  match Config.ofText? text with
  | some config => .ok config
  | none => .error (.badConfig name)

end DeckFilter
