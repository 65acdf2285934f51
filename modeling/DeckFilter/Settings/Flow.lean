import DeckFilter.Settings.Scan

/-!
# Values in brackets

Inside brackets indentation means nothing, save for tabs; items are separated by commas, and a comma
may follow the last one.

* `Settings.flowList`: a list of scalars;
* `Settings.flowKey`, `Settings.flowTable`: a table, whose values are read by another reader;
* `Settings.flowValue`: the value of a setting inside a table in brackets.
-/

namespace DeckFilter.Settings

/-- The longest text, in bytes, between the start of a key and its colon. -/
def keyLimit : Nat := 1024

/-- What was read between two places, `rest` being behind `cs`, can be a key: it is short and on one
line. -/
def isKeyText (cs rest : List Char) : Bool :=
  let used := cs.take (cs.length - rest.length)
  (String.ofList used).utf8ByteSize ≤ keyLimit && used.all (!isBreak ·)

/-- The next token is a marker, at the start of its line. -/
def Gap.atMarker (g : Gap) (cs : List Char) : Bool := g.broke && g.column == 0 && isMarker cs

/-- Pass over a gap inside brackets. No marker may stand there. -/
def flowGap (cs : List Char) : Option (List Char) :=
  let (g, rest) := skipGap true true false .none cs
  if g.atMarker rest then none else some rest

/-- A scalar inside brackets that stand in lines indented by `indent` columns, and the next
token. -/
def flowScalar (indent : Nat) (cs : List Char) : Option (Scalar × List Char) := do
  let (s, g, rest) ← scalar true indent cs
  if g.atMarker rest then none else some (s, rest)

/-! ## Lists -/

/-- The rest of a list after its opening bracket or a comma. -/
def flowItems (indent : Nat) : (fuel : Nat) → List Char → Option (List Scalar × List Char)
  | 0, _ => none
  | fuel + 1, cs => do
    match ← flowGap cs with
    | ']' :: rest => some ([], rest)
    | cs =>
      let (item, rest) ← flowScalar indent cs
      match rest with
      | ',' :: rest =>
        let (items, rest) ← flowItems indent fuel rest
        some (item :: items, rest)
      | ']' :: rest => some ([item], rest)
      | _ => none

/-- The rest of a list after its opening bracket. -/
def flowList (indent : Nat) (cs : List Char) : Option (List Scalar × List Char) :=
  flowItems indent (cs.length + 1) cs

/-! ## Tables -/

/-- A comma, or the brace that closes a table, comes next. -/
def endsEntry : List Char → Bool
  | ',' :: _ => true
  | '\x7d' :: _ => true
  | _ => false

/-- The key of an entry, whether a colon may follow it, and the next token. After a question mark
the key may be left out, may be long, and may go over several lines. -/
def flowKey (indent : Nat) (cs : List Char) : Option (Scalar × Bool × List Char) :=
  match cs with
  | '?' :: rest => do
    let rest ← flowGap rest
    if endsEntry rest || rest.head? == some ':' then some (.nothing, true, rest)
    else
      let (key, rest) ← flowScalar indent rest
      some (key, true, rest)
  | cs => do
    let (key, rest) ← flowScalar indent cs
    some (key, isKeyText cs rest, rest)

/-- What stands after a key: its value after a colon, which may be left out, as may the colon. -/
def flowAfterKey {α : Type} (nothing : α) (value : List Char → Option (α × List Char))
    (isKey : Bool) (cs : List Char) : Option (α × List Char) :=
  match cs with
  | ':' :: rest => do
    if isKey then
      let rest ← flowGap rest
      if endsEntry rest then some (nothing, rest) else value rest
    else none
  | rest => some (nothing, rest)

/-- The rest of a table after its opening brace or a comma. -/
def flowEntries {α : Type} (indent : Nat) (nothing : α)
    (value : List Char → Option (α × List Char)) :
    (fuel : Nat) → List Char → Option (List (Scalar × α) × List Char)
  | 0, _ => none
  | fuel + 1, cs => do
    match ← flowGap cs with
    | '\x7d' :: rest => some ([], rest)
    | cs =>
      let (key, isKey, rest) ← flowKey indent cs
      let (v, rest) ← flowAfterKey nothing value isKey rest
      match rest with
      | ',' :: rest =>
        let (entries, rest) ← flowEntries indent nothing value fuel rest
        some ((key, v) :: entries, rest)
      | '\x7d' :: rest => some ([(key, v)], rest)
      | _ => none

/-- The rest of a table after its opening brace. -/
def flowTable {α : Type} (indent : Nat) (nothing : α)
    (value : List Char → Option (α × List Char)) (cs : List Char) :
    Option (List (Scalar × α) × List Char) :=
  flowEntries indent nothing value (cs.length + 1) cs

/-! ## Values -/

/-- A list or a table of scalars, and the next token, whatever it is. -/
def flowCollection (indent : Nat) : List Char → Option (Value × List Char)
  | '[' :: cs => do
    let (items, rest) ← flowList indent cs
    some (.list items, rest)
  | '\x7b' :: cs => do
    let (entries, rest) ← flowTable indent .nothing (flowScalar indent) cs
    some (.table entries, rest)
  | _ => none

/-- The value of a setting inside a table in brackets, and the next token. -/
def flowValue (indent : Nat) (cs : List Char) : Option (Value × List Char) :=
  match flowCollection indent cs with
  | some (v, rest) => do
    let rest ← flowGap rest
    some (v, rest)
  | none => do
    let (s, rest) ← flowScalar indent cs
    some (.scalar s, rest)

end DeckFilter.Settings
