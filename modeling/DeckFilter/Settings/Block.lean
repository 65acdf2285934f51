import DeckFilter.Settings.Flow

/-!
# Values by indentation

The entries of a table start in one column, as do the items of a list. What belongs to an entry
stands on its line or on lines that are indented further, save that a list may start in the column
of the entry it belongs to.

* `Settings.key`: the key of an entry;
* `Settings.scalarBelow`, `Settings.listBelow`, `Settings.valueBelow`: what belongs to an entry;
* `Settings.table`: a table, whose values are read by another reader.
-/

namespace DeckFilter.Settings

/-- A dash that stands alone comes next. -/
def atDash : List Char → Bool
  | '-' :: cs => atGap cs
  | _ => false

/-- A bracket that opens a list or a table comes next. -/
def atBracket : List Char → Bool
  | '[' :: _ => true
  | '\x7b' :: _ => true
  | _ => false

/-- The next token belongs to the entry or item in column `c`. -/
def Gap.isBelow (g : Gap) (c : Nat) : Bool := !g.broke || c < g.column

/-! ## Keys -/

/-- What stands behind the key of an entry: a colon and the text after it, the colon being the first
token of its line if it `leads`; or no colon, but the gap up to the next token. -/
inductive AfterKey where
  | colon (leads : Bool) (rest : List Char)
  | nothing (g : Gap) (rest : List Char)

/-- What stands behind a long key in column `c`: its colon is in that column too. -/
def afterLongKey (c : Nat) (g : Gap) (cs : List Char) : AfterKey :=
  match cs with
  | ':' :: rest =>
    if g.broke && g.column == c && atGap rest then .colon true rest else .nothing g cs
  | _ => .nothing g cs

/-- A key after the question mark in column `c`. It may be left out. -/
def longKey (c : Nat) (cs : List Char) : Option (Scalar × AfterKey) :=
  let (g, rest) := skipGap false false false ⟨false, c + 1⟩ cs
  if rest.isEmpty || !g.isBelow c then some (.nothing, afterLongKey c g rest)
  else do
    let (s, g, rest) ← scalar false (c + 1) rest
    some (s, afterLongKey c g rest)

/-- A key with a colon on the same line. -/
def shortKey (c : Nat) (cs : List Char) : Option (Scalar × AfterKey) := do
  let (s, _, rest) ← scalar false (c + 1) cs
  if !isKeyText cs rest then none
  match rest with
  | ':' :: rest => if atGap rest then some (s, .colon false rest) else none
  | _ => none

/-- The key of an entry in column `c`, and what stands behind it. -/
def key (c : Nat) (cs : List Char) : Option (Scalar × AfterKey) :=
  match cs with
  | '?' :: rest => if atGap rest then longKey c rest else shortKey c cs
  | _ => shortKey c cs

/-! ## What belongs to an entry -/

/-- The gap after a dash or a colon. If that is the first token of its line, it stands in column
`c`, and tabs are no blanks. -/
def gapAfter (c : Nat) (leads : Bool) (cs : List Char) : Gap × List Char :=
  skipGap false (!leads) false ⟨false, c + 1⟩ cs

/-- A scalar that belongs to the entry in column `c`. If nothing does, it is empty. -/
def scalarBelow (c : Nat) (leads : Bool) (cs : List Char) : Option (Scalar × Gap × List Char) :=
  let (g, rest) := gapAfter c leads cs
  if rest.isEmpty || !g.isBelow c then some (.nothing, g, rest) else scalar false (c + 1) rest

/-- The entry in a column is over: nothing follows on the same line, and the next token stands at
most in that column. -/
def isOver (c : Nat) (g : Gap) (rest : List Char) : Bool :=
  rest.isEmpty || (g.broke && g.column ≤ c)

/-- Another entry starts in column `c`. -/
def isNext (c : Nat) (g : Gap) (rest : List Char) : Bool :=
  !rest.isEmpty && g.column == c && !g.atMarker rest

/-- The items of a list in column `c`, from the dash of the first one on. -/
def items (c : Nat) : (fuel : Nat) → List Char → Option (List Scalar × Gap × List Char)
  | 0, _ => none
  | fuel + 1, cs => do
    let (item, g, rest) ← scalarBelow c true cs.tail
    if !isOver c g rest then none
    else if isNext c g rest && atDash rest then
      let (more, g, rest) ← items c fuel rest
      some (item :: more, g, rest)
    else some ([item], g, rest)

/-- A list in column `c`, from the dash of the first item on. -/
def listBelow (c : Nat) (cs : List Char) : Option (Value × Gap × List Char) := do
  let (items, g, rest) ← items c (cs.length + 1) cs
  some (.list items, g, rest)

/-- The value of an entry in column `c`. -/
def entryValue {α : Type} (nothing : α)
    (value : Nat → Bool → List Char → Option (α × Gap × List Char)) (c : Nat) :
    AfterKey → Option (α × Gap × List Char)
  | .colon leads rest => value c leads rest
  | .nothing g rest => some (nothing, g, rest)

/-- The entries of a table in column `c`, from the key of the first one on. -/
def entries {α : Type} (nothing : α)
    (value : Nat → Bool → List Char → Option (α × Gap × List Char)) (c : Nat) :
    (fuel : Nat) → List Char → Option (List (Scalar × α) × Gap × List Char)
  | 0, _ => none
  | fuel + 1, cs => do
    let (k, after) ← key c cs
    let (v, g, rest) ← entryValue nothing value c after
    if !isOver c g rest then none
    else if isNext c g rest then
      let (more, g, rest) ← entries nothing value c fuel rest
      some ((k, v) :: more, g, rest)
    else some ([(k, v)], g, rest)

/-- A table in column `c`, from the key of the first entry on. -/
def table {α : Type} (nothing : α)
    (value : Nat → Bool → List Char → Option (α × Gap × List Char)) (c : Nat) (cs : List Char) :
    Option (List (Scalar × α) × Gap × List Char) :=
  entries nothing value c (cs.length + 1) cs

/-- A value that stands by itself in a line: anything in brackets, or a scalar. -/
def inlineValue (c : Nat) (cs : List Char) : Option (Value × Gap × List Char) :=
  if atBracket cs then do
    let (v, rest) ← flowCollection (c + 1) cs
    let (g, rest) := skipGap false true false .none rest
    some (v, g, rest)
  else do
    let (s, g, rest) ← scalar false (c + 1) cs
    some (.scalar s, g, rest)

/-- The value of the setting in column `c`. A list or a table by indentation starts on a line of its
own, or behind a colon that does. -/
def valueBelow (c : Nat) (leads : Bool) (cs : List Char) : Option (Value × Gap × List Char) :=
  let (g, rest) := gapAfter c leads cs
  let startsLine := g.broke || leads
  if rest.isEmpty || g.atMarker rest then some (.scalar .nothing, g, rest)
  else if startsLine && c ≤ g.column && atDash rest then listBelow g.column rest
  else if !g.isBelow c then some (.scalar .nothing, g, rest)
  else if startsLine && (key g.column rest).isSome then do
    let (entries, g, rest) ← table .nothing scalarBelow g.column rest
    some (.table entries, g, rest)
  else inlineValue c rest

end DeckFilter.Settings
