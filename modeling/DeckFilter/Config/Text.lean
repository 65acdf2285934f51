import DeckFilter.Config
import DeckFilter.Settings.Print
import DeckFilter.Settings.Read

/-!
# Configuration files

Every key is optional and may be set once; a table of roles replaces the whole table.

* `Config.settings`, `Config.text`: a configuration as a file;
* `Config.set`, `Config.ofSettings?`, `Config.ofText?`: the configuration of a file.
-/

namespace DeckFilter

/-! ## Values -/

namespace Settings

/-- A text that is quoted where it has to be. -/
def Scalar.ofText (s : String) : Scalar := ⟨s, false⟩

/-- A word that is never quoted. -/
def Scalar.word (s : String) : Scalar := ⟨s, true⟩

/-- The value of a place where nothing is written is empty, whatever is wanted there. -/
def Scalar.isNothing (s : Scalar) : Bool := s.plain && s.text.isEmpty

/-- The truth value that a scalar spells. -/
def Scalar.bool? (s : Scalar) : Option Bool := if s.plain then boolWords.lookup s.text else none

/-- A scalar that spells nothing. -/
def Scalar.isNull (s : Scalar) : Bool := s.plain && nullWords.contains s.text

/-- Any scalar is the text it is written as. -/
def Value.text? : Value → Option String
  | .scalar s => some s.text
  | _ => none

/-- A truth value. -/
def Value.bool? : Value → Option Bool
  | .scalar s => s.bool?
  | _ => none

/-- A list of texts. -/
def Value.texts? : Value → Option (List String)
  | .list items => some (items.map (·.text))
  | .scalar s => if s.isNothing then some [] else none
  | .table _ => none

/-- A text or nothing. -/
def Value.optionalText? : Value → Option (Option String)
  | .scalar s => some (if s.isNull then none else some s.text)
  | _ => none

/-- A table of role formats. -/
def Value.roles? : Value → Option (Entries RoleFormat)
  | .table entries => do
    let roles ← entries.mapM fun (k, v) => (RoleFormat.ofName? v.text).map fun f => (k.text, f)
    some (Entries.ofList roles)
  | .scalar s => if s.isNothing then some [] else none
  | .list _ => none

end Settings

open Settings

namespace Config

/-! ## Writing -/

/-- A configuration as a list of settings. -/
def settings (c : Config) : List Entry :=
  let text (s : String) : Value := .scalar (.ofText s)
  [("slide-format", text c.slideFormat),
    ("raw-format", text c.rawFormat),
    ("bullet-point-animation",
      .scalar (.word (if c.bulletPointAnimation then "true" else "false"))),
    ("slide-decorators", .list (c.slideDecorators.map .ofText)),
    ("roles", .table (c.roles.map fun (role, f) => (.ofText role, .ofText f.name))),
    ("box-color", text c.boxColor),
    ("default-code-language", text c.defaultCodeLanguage),
    ("debug-log", match c.debugLog with
      | some path => text path
      | none => .scalar (.word "null")),
    ("search-path-var", text c.searchPathVar),
    ("instructor-var", text c.instructorVar)].map fun (k, v) => (.ofText k, v)

/-- A configuration as a file. -/
def text (c : Config) : String := Settings.text c.settings

/-! ## Reading -/

/-- A configuration with one key set. -/
def set (c : Config) (key : String) (v : Value) : Option Config :=
  match key with
  | "slide-format" => v.text?.map fun s => { c with slideFormat := s }
  | "raw-format" => v.text?.map fun s => { c with rawFormat := s }
  | "bullet-point-animation" => v.bool?.map fun b => { c with bulletPointAnimation := b }
  | "slide-decorators" => v.texts?.map fun ss => { c with slideDecorators := ss }
  | "roles" => v.roles?.map fun roles => { c with roles := roles }
  | "box-color" => v.text?.map fun s => { c with boxColor := s }
  | "default-code-language" => v.text?.map fun s => { c with defaultCodeLanguage := s }
  | "debug-log" => v.optionalText?.map fun path => { c with debugLog := path }
  | "search-path-var" => v.text?.map fun s => { c with searchPathVar := s }
  | "instructor-var" => v.text?.map fun s => { c with instructorVar := s }
  | _ => none

/-- The default configuration with some keys set, each at most once. -/
def ofSettings? (settings : List Entry) : Option Config :=
  if (settings.map (·.1.text)).Nodup then
    settings.foldlM (fun c (k, v) => c.set k.text v) .default
  else none

/-- The configuration of a file. -/
def ofText? (s : String) : Option Config := do ofSettings? (← Settings.ofText? s)

end Config

end DeckFilter
