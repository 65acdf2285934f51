import DeckFilter.Latex
import DeckFilter.Listing
import DeckFilter.Overlay
import DeckFilter.Config

/-!
# Containers

A division whose classes name a kind of container stands for something on the slide: a note for the
speaker, a listing, staged content, an environment. An admonition with the title "Language Variant"
becomes a subtitle.

* `ContainerKind`, `Container.classify`: the kind of a division;
* `Container.plainText`, `Container.flatten`: inlines as text;
* `Container.replacement`: the blocks that take the place of a container.
-/

namespace DeckFilter

/-- What a container stands for. -/
inductive ContainerKind where
  | speakerNote | sourceInclude | animate | latexEnvironment | languageVariant
  deriving DecidableEq, Repr

namespace Container

/-! ## Inlines as text -/

/-- The text of words and blanks; other inlines have none. -/
def inlineText : Inline → String
  | .str text => text
  | .space => " "
  | _ => ""

/-- The text of the words and blanks in a list. -/
def plainText (content : List Inline) : String := String.join (content.map inlineText)

/-- An inline that is neither a word nor a blank is an issue. -/
def inlineIssue : Inline → Option Issue
  | .str _ => none
  | .space => none
  | x => some (.unsupportedInline x.tag)

/-- The issues of the inlines that `plainText` leaves out. -/
def leftOut (content : List Inline) : List Issue := content.filterMap inlineIssue

/-- The text of the words and blanks in a list; what is left out is recorded. -/
def flatten (content : List Inline) : StateM Context String := do
  modify fun ctx => (leftOut content).foldl (fun ctx i => ctx.record i) ctx
  pure (plainText content)

/-! ## Kinds -/

/-- The classes that name a kind, in the order they are looked for. -/
def markers : List (String × ContainerKind) :=
  [("speakernote", .speakerNote), ("source_include", .sourceInclude), ("animate", .animate),
    ("latex_environment", .latexEnvironment)]

/-- The kind that the classes of a container name. -/
def marked? (attr : Attr) : Option ContainerKind :=
  if attr.hasClass "container" then (markers.find? fun m => attr.hasClass m.1).map (·.2) else none

/-- The title and the body of an admonition of two paragraphs. -/
def paragraphs? (attr : Attr) (content : List Block) : Option (List Inline × List Inline) :=
  if attr.hasClass "admonition" then
    match content with
    | [.para title, .para body] => some (title, body)
    | _ => none
  else none

/-- The title of a language variant in any case. No character beyond ASCII has one of its letters
as its lower case. -/
def isLanguageVariant (title : String) : Bool := title.toLower == "language variant"

/-- The kind of a division. A title has to be flattened to be compared, so what is left out of it is
recorded whatever the kind turns out to be. -/
def classify (attr : Attr) (content : List Block) : StateM Context (Option ContainerKind) :=
  match marked? attr with
  | some kind => pure (some kind)
  | none =>
    match paragraphs? attr content with
    | none => pure none
    | some (title, _) => do
      let title ← flatten title
      pure (if isLanguageVariant title then some .languageVariant else none)

/-! ## Replacements -/

/-- A note for the speaker. -/
def speakerNote (rawFormat : String) (content : List Block) : List Block :=
  Latex.wrap rawFormat "\\note\x7b" content "\x7d"

/-- The environment that the third class names; without one, the content alone. -/
def environment (rawFormat : String) (classes : List String) (content : List Block) : List Block :=
  match classes[2]? with
  | some name => Latex.wrap rawFormat (Latex.opening name) content (Latex.closing name)
  | none => content

/-- A boxed subtitle. -/
def subtitle (boxColor text : String) : String :=
  "\\framesubtitle" ++ Latex.group ("\\rightline" ++
    Latex.group (Latex.colorbox text boxColor ++ "\\hspace" ++ Latex.group "1cm"))

/-- The subtitle that the body of an admonition spells. -/
def languageVariant (config : Config) (attr : Attr) (content : List Block) : Attempt (List Block) :=
  match paragraphs? attr content with
  | none => throw (.malformedNode "Div" "language variant admonition needs two paragraphs")
  | some (_, body) => do
    let text ← flatten body
    pure [.raw config.rawFormat (subtitle config.boxColor text)]

/-- The blocks that take the place of a container. -/
def replacement (config : Config) (files : Files) (kind : ContainerKind) (attr : Attr)
    (content : List Block) : Attempt (List Block) :=
  match kind with
  | .speakerNote => pure (speakerNote config.rawFormat content)
  | .sourceInclude => do
    let listing ← Listing.codeBlock files config.defaultCodeLanguage attr.classes
    pure [listing]
  | .animate => pure (Overlay.stage attr.classes content config.rawFormat)
  | .latexEnvironment => pure (environment config.rawFormat attr.classes content)
  | .languageVariant => languageVariant config attr content

end Container

end DeckFilter
