import DeckFilter.Entries

/-!
# Configuration and environment

* `RoleFormat`: the ways to format the text of a role;
* `Config`, `Config.role?`, `Config.defaultRole`: what can be set;
* `Environment`, `Environment.ofVariables`: what the variables of the process say.
-/

namespace DeckFilter

/-- How a role formats its text. -/
inductive RoleFormat where
  | smallCaps | strong | menu | command | filename | answer | animate
  deriving DecidableEq, Repr

namespace RoleFormat

/-- The name of a format. -/
def name : RoleFormat → String
  | smallCaps => "small-caps"
  | strong => "strong"
  | menu => "menu"
  | command => "command"
  | filename => "filename"
  | answer => "answer"
  | animate => "animate"

/-- The format of a name. -/
def ofName? (name : String) : Option RoleFormat :=
  [smallCaps, strong, menu, command, filename, answer, animate].find? (·.name == name)

/-- Emphasis is a node of the document; every other format is raw markup. -/
def isRaw : RoleFormat → Bool
  | smallCaps => false
  | strong => false
  | _ => true

end RoleFormat

/-- The configuration of a run. -/
structure Config where
  slideFormat : String
  rawFormat : String
  bulletPointAnimation : Bool
  slideDecorators : List String
  roles : Entries RoleFormat
  boxColor : String
  defaultCodeLanguage : String
  debugLog : Option String
  searchPathVar : String
  instructorVar : String
  deriving DecidableEq, Repr

namespace Config

/-- The configuration of a run that sets nothing. -/
def default : Config where
  slideFormat := "beamer"
  rawFormat := "latex"
  bulletPointAnimation := false
  slideDecorators := ["t", "shrink"]
  roles := [("toolname", .smallCaps), ("menu", .menu), ("command", .command),
    ("answer", .answer), ("animate", .animate), ("filename", .filename), ("default", .strong)]
  boxColor := "adacore2"
  defaultCodeLanguage := "Ada"
  debugLog := none
  searchPathVar := "TEXINPUTS"
  instructorVar := "INSTRUCTOR"

/-- The format of a role. -/
def role? (c : Config) (role : String) : Option RoleFormat := c.roles.find? role

/-- The format of text without a role and of unknown roles. -/
def defaultRole (c : Config) : RoleFormat := (c.role? "default").getD .strong

end Config

/-- What a run takes from its process: whether answers are shown, and where images are looked
for. -/
structure Environment where
  instructor : Bool
  searchPath : Option String
  deriving DecidableEq, Repr

namespace Environment

/-- The environment of a process without variables. -/
def empty : Environment := ⟨false, none⟩

/-- Instructor mode is on as soon as its variable is set; a search path that is no text is
ignored. -/
def ofVariables (config : Config) (lookup : String → Option ByteArray) : Environment where
  instructor := (lookup config.instructorVar).isSome
  searchPath := (lookup config.searchPathVar).bind String.fromUTF8?

end Environment

end DeckFilter
