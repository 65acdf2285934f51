import DeckFilter.Config
import DeckFilter.Context
import DeckFilter.Latex
import DeckFilter.Text.Lines
import DeckFilter.Walk

/-!
# Roles

A role says how a piece of text is to be formatted. Text with a role is a code inline of class
`interpreted-text` whose first pair has the key `role`; text without one is a span of class
`title-ref` and gets the default role.

* `tokenize`: a literal as words and blanks;
* `Role.render`: the raw markup of a literal;
* `Role.formatTitle`, `Role.formatCode`: what becomes of spans and code inlines.
-/

namespace DeckFilter

/-- A literal as its pieces between blanks. Two blanks in a row have an empty piece between them, so
nothing is lost. -/
def tokenize (text : String) : List Inline :=
  ((Text.pieces ' ' text).map Inline.str).intersperse .space

namespace Role

/-- Inlines in the emphasis of a format. -/
def emphasize (format : RoleFormat) (content : List Inline) : Inline :=
  .styled (if format = .smallCaps then .smallCaps else .strong) content

/-- Inlines in the default role. A default role of raw markup cannot apply to inlines and makes them
strong. -/
def applyDefault (config : Config) (content : List Inline) : Inline :=
  emphasize config.defaultRole content

/-- The raw markup of a literal. Answers stand out for instructors only. Explanations are left out
for everyone else, and the blank around them stays. -/
def render (config : Config) (env : Environment) (format : RoleFormat) (literal : String) :
    Option String :=
  let text := Latex.escape literal
  match format with
  | .menu => some (Latex.colorbox (Latex.textcolor text "white") config.boxColor)
  | .command => some (Latex.colorbox (Latex.textcolor (Latex.monospace text) "white") "black")
  | .filename => some (Latex.boldItalic text)
  | .answer => some (if env.instructor then Latex.answerHighlight text else text)
  | .animate => some (if env.instructor then Latex.onslide text else " ")
  | .smallCaps => none
  | .strong => none

/-- A span of class `title-ref` gives way to its content in the default role. -/
def formatTitle (config : Config) (attr : Attr) (content : List Inline) : Edit Inline :=
  if attr.hasClass "title-ref" then .replace [applyDefault config content] else .unchanged

/-- The role of a code inline with these attributes. -/
def roleOf? (attr : Attr) : Option String :=
  if attr.hasClass "interpreted-text" then
    match attr.firstPair with
    | some ("role", role) => some role
    | _ => none
  else none

/-- A code inline with a role gives way to its text in the format of the role. A role that the
table lacks counts as the default role, and raw markup is for the slide format only. -/
def formatCode (config : Config) (env : Environment) (attr : Attr) (text : String) :
    Attempt (Edit Inline) :=
  match roleOf? attr with
  | none => pure .unchanged
  | some role =>
    match config.role? role with
    | none => do
      report (.unknownRole role)
      pure (.replace [applyDefault config (tokenize text)])
    | some format =>
      if !format.isRaw then pure (.replace [emphasize format (tokenize text)])
      else do
        let ctx ← get
        if ctx.format ≠ config.slideFormat then
          throw (.unsupportedRole role ctx.format config.rawFormat)
        match render config env format text with
        | some rendered => pure (.replace [.raw config.rawFormat rendered])
        | none => pure .unchanged

end Role

end DeckFilter
