import DeckFilter.Log
import DeckFilter.Log.Pattern
import DeckFilter.Text.Alphanumeric
import DeckFilter.Text.Space

/-!
# Which events are logged

A list of directives. A directive has the form `target[span{field=value}]=level`, where each part
may be left out, but not all of them. Of the directives that are for an event the most specific one
decides: first the one with the longest target, then one with a field.

* `Log.Directive`, `Log.directives?`, `Log.wellFormedDirectives`: the directives of a text;
* `Log.enabled`: whether an event is logged.
-/

namespace DeckFilter.Log

/-! ## Directives -/

/-- A field that an event must have, and a condition on its value if there is one. -/
structure FieldCondition where
  name : String
  value : Option String
  deriving DecidableEq, Repr

/-- The start of the targets of the events that a directive is for, the span they are in, the field
they have, and the largest rank that it lets through: none at zero, all at five. -/
structure Directive where
  target : Option String
  span : Option String
  field : Option FieldCondition
  verbosity : Nat
  deriving DecidableEq, Repr

/-- The verbosity that lets everything through. -/
def everything : Nat := 5

/-- A directive for all events of a verbosity. -/
def Directive.general (verbosity : Nat) : Directive := ⟨none, none, none, verbosity⟩

/-- A directive for the events of a target. -/
def Directive.forTarget (target : String) (verbosity : Nat) : Directive :=
  ⟨some target, none, none, verbosity⟩

/-- The verbosity that a word names, in any case, or a digit. -/
def verbosity? (word : String) : Option Nat :=
  match word.toLower with
  | "off" => some 0
  | "error" => some 1
  | "warn" => some 2
  | "info" => some 3
  | "debug" => some 4
  | "trace" => some 5
  | _ => (Text.numeral? word.toList).filter (· ≤ everything)

/-! ## Reading -/

/-- The text without the blanks around it. -/
def trimmed (cs : List Char) : List Char :=
  ((cs.dropWhile Text.isSpace).reverse.dropWhile Text.isSpace).reverse

/-- The length of a text in bytes. -/
def byteLength (cs : List Char) : Nat := (String.ofList cs).utf8ByteSize

/-- The text up to a number of bytes, and the text after them; a character is not cut through. -/
def cutAt? : (bytes : Nat) → List Char → Option (List Char × List Char)
  | 0, cs => some ([], cs)
  | _ + 1, [] => none
  | n + 1, c :: cs =>
    if c.utf8Size ≤ n + 1 then
      (cutAt? (n + 1 - c.utf8Size) cs).map fun (before, after) => (c :: before, after)
    else none

/-- The piece of a text between two places, given in bytes. -/
def piece? (start stop : Nat) (cs : List Char) : Option String := do
  let (_, rest) ← cutAt? start cs
  let (piece, _) ← cutAt? (stop - start) rest
  some (String.ofList piece)

/-- A target starts with a letter, a number, a dash, a colon or an underscore. -/
def startsTarget (c : Char) : Bool :=
  Text.isAlphanumeric c || c == '-' || c == ':' || c == '_'

/-- The condition on a field that a text states. -/
def fieldCondition? (text : String) : Option FieldCondition :=
  match text.toList.splitOn '=' with
  | [name] => if name.isEmpty then none else some ⟨String.ofList name, none⟩
  | name :: value :: _ =>
    if isFieldValue value then some ⟨String.ofList name, some (String.ofList value)⟩ else none
  | [] => none

/-! The places of the parts are found in the text without the blanks around it, but the parts are
cut out of the whole text. So leading blanks shift every part, and blanks at the end belong to the
last one. -/

/-- The verbosity of a level that starts at a place and goes on to the end. Without a level
everything is let through. -/
def levelFrom? (whole : List Char) (start : Nat) : Option Nat := do
  let (_, level) ← cutAt? start whole
  if level.isEmpty then some everything else verbosity? (String.ofList level)

/-- What stands behind the parts in front of the level, `cs` being the text from the place `start`
on. -/
def behindParts (whole : List Char) (target span : Option String) (field : Option FieldCondition)
    (start : Nat) (cs : List Char) : Option Directive :=
  match cs with
  | [] => some ⟨target, span, field, everything⟩
  | '=' :: _ => (levelFrom? whole (start + 1)).map fun n => ⟨target, span, field, n⟩
  | _ => none

/-- The condition on a field behind its opening brace. -/
def behindBrace (whole : List Char) (target span : Option String) (start : Nat) (cs : List Char) :
    Option Directive :=
  let (text, rest) := cs.span (· ≠ '\x7d')
  let stop := start + byteLength text
  match rest with
  | _ :: ']' :: rest => do
    let field ← fieldCondition? (← piece? start stop whole)
    behindParts whole target span (some field) (stop + 2) rest
  | _ => none

/-- The span and the field behind their opening bracket. -/
def behindBracket (whole : List Char) (target : Option String) (start : Nat) (cs : List Char) :
    Option Directive :=
  let (name, rest) := cs.span fun c => c ≠ ']' ∧ c ≠ '\x7b'
  let stop := start + byteLength name
  match rest with
  | [] => none
  | ']' :: rest => do
    let span ← piece? start stop whole
    behindParts whole target (some span) none (stop + 1) rest
  | _ :: rest => do
    let span ← piece? start stop whole
    behindBrace whole target (if name.isEmpty then none else some span) (stop + 1) rest

/-- The directive of a text. A word alone is a level if it names one, and a target otherwise. -/
def directive? (text : String) : Option Directive :=
  let whole := text.toList
  match trimmed whole with
  | [] => none
  | '[' :: cs => behindBracket whole none 1 cs
  | c :: cs =>
    if !startsTarget c then none
    else
      let (target, rest) := (c :: cs).span fun c => c ≠ '=' ∧ c ≠ '['
      let stop := byteLength target
      match rest with
      | [] =>
        match verbosity? text with
        | some n => some (.general n)
        | none => some (.forTarget text everything)
      | '[' :: rest => do
        let target ← piece? 0 stop whole
        behindBracket whole (some target) (stop + 1) rest
      | rest => do
        let target ← piece? 0 stop whole
        behindParts whole (some target) none none stop rest

/-- The texts between the commas of a list of directives. -/
def directiveTexts (text : String) : List String :=
  ((text.toList.splitOn ',').filter (· ≠ [])).map String.ofList

/-- A list of directives; without any, only errors are logged. -/
def orErrors : List Directive → List Directive
  | [] => [.general 1]
  | ds => ds

/-- The directives of a text, all of which have to be well formed. -/
def directives? (text : String) : Option (List Directive) :=
  ((directiveTexts text).mapM directive?).map orErrors

/-- The directives of a text, without those that are malformed. -/
def wellFormedDirectives (text : String) : List Directive :=
  orErrors ((directiveTexts text).filterMap directive?)

/-! ## Deciding -/

/-- An event has a field; its message is one. -/
def Event.hasField (e : Event) (name : String) : Bool :=
  name == "message" || e.fields.any fun (k, _) => k == name

/-- A directive is for an event: one that names a span or the value of a field is for none, for no
event is in a span. -/
def Directive.covers (d : Directive) (e : Event) : Bool :=
  d.span.isNone &&
    (match d.target with
      | none => true
      | some start => start.toList.isPrefixOf e.target.toList) &&
    match d.field with
    | none => true
    | some f => f.value.isNone && e.hasField f.name

/-- The length of the target of a directive; having none is shortest. -/
def Directive.reach (d : Directive) : Nat :=
  match d.target with
  | none => 0
  | some target => target.utf8ByteSize + 1

/-- A field is at least as specific as another: having one is more specific than having none, and of
two fields the one whose name comes later is. -/
def fieldAtLeast : Option FieldCondition → Option FieldCondition → Bool
  | _, none => true
  | none, some _ => false
  | some f, some g => !decide (f.name < g.name)

/-- A directive is at least as specific as another. -/
def Directive.atLeast (d e : Directive) : Bool :=
  decide (e.reach < d.reach) || (e.reach == d.reach && fieldAtLeast d.field e.field)

/-- The more specific of two directives, of two equally specific ones the later. -/
def moreSpecific : Option Directive → Directive → Option Directive
  | none, d => some d
  | some e, d => if d.atLeast e then some d else some e

/-- An event is logged. -/
def enabled (ds : List Directive) (e : Event) : Bool :=
  match (ds.filter (·.covers e)).foldl moreSpecific none with
  | some d => decide (e.level.rank ≤ d.verbosity)
  | none => false

end DeckFilter.Log
