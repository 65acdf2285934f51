import DeckFilter.Settings
import DeckFilter.Text.Digits

/-!
# Scalars and the gaps between them

* `Settings.Gap`, `Settings.skipGap`: blanks, comments and line breaks;
* `Settings.Fold`: what blanks and line breaks inside a scalar stand for;
* `Settings.plain`, `Settings.singleQuoted`, `Settings.doubleQuoted`, `Settings.scalar`: scalars.

A reader gives nothing when the text is malformed.
-/

namespace DeckFilter.Settings

/-! ## Gaps -/

/-- What lies between two tokens: whether a line ended, and the column of the second token, counted
from the start of its line if one ended and from where the gap was entered otherwise. -/
structure Gap where
  broke : Bool
  column : Nat
  deriving DecidableEq, Repr

/-- No gap. -/
def Gap.none : Gap := ⟨false, 0⟩

/-- The start of a line. -/
def Gap.lineStart : Gap := ⟨true, 0⟩

/-- A byte order mark. -/
def byteOrderMark : Char := '\ufeff'

/-- Pass over blanks, comments and line breaks, `g` having been passed before. Tabs count as blanks
as long as `tabs` says so; after a line break they do inside brackets only. One byte order mark at
the start of a line is passed over too, and fills a column. -/
def skipGap (inFlow : Bool) : (tabs comment : Bool) → Gap → List Char → Gap × List Char
  | _, _, g, [] => (g, [])
  | tabs, comment, g, c :: cs =>
    if isBreak c then skipGap inFlow inFlow false ⟨true, 0⟩ cs
    else if comment then skipGap inFlow tabs true g cs
    else if c = byteOrderMark ∧ g.broke ∧ g.column = 0 then
      skipGap inFlow tabs false { g with column := 1 } cs
    else if c = ' ' ∨ (c = '\t' ∧ tabs) then
      skipGap inFlow tabs false { g with column := g.column + 1 } cs
    else if c = '#' then skipGap inFlow tabs true g cs
    else (g, c :: cs)

/-- Three dashes or three dots that stand alone. -/
def isMarker : List Char → Bool
  | '-' :: '-' :: '-' :: cs => atGap cs
  | '.' :: '.' :: '.' :: cs => atGap cs
  | _ => false

/-! ## Blanks and line breaks inside a scalar -/

/-- Blanks on one line, or line breaks with the blanks around them dropped: the first break, which
may be escaped, and those after it. Both lists have the last character first. -/
inductive Fold where
  | blanks (cs : List Char)
  | breaks (first : Option Char) (more : List Char)

namespace Fold

/-- Nothing yet. -/
def empty : Fold := blanks []

/-- One more blank. -/
def blank (c : Char) : Fold → Fold
  | blanks cs => blanks (c :: cs)
  | breaks first more => breaks first more

/-- One more line break. -/
def lineBreak (c : Char) : Fold → Fold
  | blanks _ => breaks (some c) []
  | breaks first more => breaks first (c :: more)

/-- A line has ended. -/
def broke : Fold → Bool
  | blanks _ => false
  | breaks _ _ => true

/-- Something is there. -/
def some? : Fold → Bool
  | blanks cs => !cs.isEmpty
  | breaks _ _ => true

/-- What stands for it: one line feed is a blank, more are one less. -/
def text : Fold → List Char
  | blanks cs => cs.reverse
  | breaks (some '\n') [] => [' ']
  | breaks (some '\n') more => more.reverse
  | breaks (some c) more => c :: more.reverse
  | breaks none more => more.reverse

end Fold

/-! ## Plain scalars -/

/-- Characters that have a meaning inside brackets. -/
def isFlowIndicator (c : Char) : Bool := [',', '[', ']', '\x7b', '\x7d'].contains c

/-- Characters that no plain scalar starts with. -/
def isIndicator (c : Char) : Bool :=
  isFlowIndicator c ||
    ['-', '?', ':', '#', '&', '*', '!', '|', '>', '\'', '"', '%', '@', '`'].contains c

/-- A plain scalar starts here. A dash, a question mark or a colon starts one if text follows it at
once, the latter two not inside brackets. -/
def startsPlain (inFlow : Bool) : List Char → Bool
  | [] => false
  | c :: cs =>
    !(isBlank c || isBreak c || isIndicator c) ||
      (c == '-' && !(atGap cs)) ||
      (!inFlow && (c == '?' || c == ':') && !atGap cs)

/-- A colon inside brackets that has neither a gap nor text after it. -/
def isStrayColon (inFlow : Bool) (c : Char) (cs : List Char) : Bool :=
  inFlow && c == ':' &&
    match cs with
    | d :: _ => d == '?' || isFlowIndicator d
    | [] => false

/-- A plain scalar ends before this character, which stands in a column of a line that goes on if
blanks and line breaks came before it. -/
def endsPlain (inFlow : Bool) (indent : Nat) (fold : Fold) (column : Nat) (c : Char)
    (cs : List Char) : Bool :=
  (fold.broke && !inFlow && column < indent) ||
    (fold.broke && column == 0 && isMarker (c :: cs)) ||
    (fold.some? && c == '#') ||
    (c == ':' && atGap cs) || (inFlow && isFlowIndicator c)

/-- The rest of a plain scalar, with the gap after it. A line that goes on has to be indented by
`indent` columns, unless it is inside brackets; even there no tab stands in these columns. -/
def plain (inFlow : Bool) (indent : Nat) :
    (text : List Char) → (fold : Fold) → (column : Nat) → List Char →
      Option (List Char × Gap × List Char)
  | text, fold, column, [] => some (text.reverse, ⟨fold.broke, column⟩, [])
  | text, fold, column, c :: cs =>
    if isBlank c then
      if fold.broke && column < indent && c == '\t' then none
      else plain inFlow indent text (fold.blank c) (column + 1) cs
    else if isBreak c then plain inFlow indent text (fold.lineBreak c) 0 cs
    else if endsPlain inFlow indent fold column c cs then
      some (text.reverse, ⟨fold.broke, column⟩, c :: cs)
    else if isStrayColon inFlow c cs then none
    else plain inFlow indent (c :: (fold.text.reverse ++ text)) .empty column cs

/-! ## Quoted scalars -/

/-- The rest of a single-quoted scalar: a quote is written twice. -/
def singleQuoted : (text : List Char) → (fold : Fold) → (lineStart : Bool) → List Char →
    Option (List Char × List Char)
  | _, _, _, [] => none
  | text, fold, _, '\'' :: '\'' :: cs =>
    singleQuoted ('\'' :: (fold.text.reverse ++ text)) .empty false cs
  | text, fold, lineStart, c :: cs =>
    if lineStart && isMarker (c :: cs) then none
    else if c = '\'' then some (text.reverse ++ fold.text, cs)
    else if isBlank c then singleQuoted text (fold.blank c) false cs
    else if isBreak c then singleQuoted text (fold.lineBreak c) true cs
    else singleQuoted (c :: (fold.text.reverse ++ text)) .empty false cs

/-- The number of hexadecimal digits after an escape letter. -/
def escapeWidth : Char → Option Nat
  | 'x' => some 2
  | 'u' => some 4
  | 'U' => some 8
  | _ => none

/-- The character of an escape letter. -/
def escapeLetter : Char → Option Char
  | '0' => some '\x00'
  | 'a' => some '\x07'
  | 'b' => some '\x08'
  | 't' => some '\t'
  | '\t' => some '\t'
  | 'n' => some '\n'
  | 'v' => some '\x0b'
  | 'f' => some '\x0c'
  | 'r' => some '\r'
  | 'e' => some '\x1b'
  | ' ' => some ' '
  | '"' => some '"'
  | '/' => some '/'
  | '\\' => some '\\'
  | 'N' => some '\u0085'
  | '_' => some '\u00a0'
  | 'L' => some '\u2028'
  | 'P' => some '\u2029'
  | _ => none

/-- The character of a number, if it is one. -/
def charOf (n : Nat) : Option Char :=
  if h : n.isValidChar then some (Char.ofNatAux n h) else none

/-- Where the reader of a double-quoted scalar stands: in the text, after a backslash, or before
`left` more hexadecimal digits of a number. -/
inductive EscapeState where
  | text
  | backslash
  | digits (left : Nat) (value : Nat)

/-- The rest of a double-quoted scalar. -/
def doubleQuoted : (state : EscapeState) → (text : List Char) → (fold : Fold) →
    (lineStart : Bool) → List Char → Option (List Char × List Char)
  | _, _, _, _, [] => none
  | .text, text, fold, lineStart, c :: cs =>
    if lineStart && isMarker (c :: cs) then none
    else if c = '"' then some (text.reverse ++ fold.text, cs)
    else if c = '\\' then doubleQuoted .backslash (fold.text.reverse ++ text) .empty false cs
    else if isBlank c then doubleQuoted .text text (fold.blank c) false cs
    else if isBreak c then doubleQuoted .text text (fold.lineBreak c) true cs
    else doubleQuoted .text (c :: (fold.text.reverse ++ text)) .empty false cs
  | .backslash, text, _, _, c :: cs =>
    if isBreak c then doubleQuoted .text text (.breaks none []) true cs
    else
      match escapeLetter c, escapeWidth c with
      | some x, _ => doubleQuoted .text (x :: text) .empty false cs
      | none, some width => doubleQuoted (.digits width 0) text .empty false cs
      | none, none => none
  | .digits left value, text, _, _, c :: cs =>
    match Text.hexValue c with
    | none => none
    | some d =>
      let value := value * 16 + d
      if left ≤ 1 then
        match charOf value with
        | some x => doubleQuoted .text (x :: text) .empty false cs
        | none => none
      else doubleQuoted (.digits (left - 1) value) text .empty false cs

/-! ## Scalars -/

/-- A scalar, and the gap up to the next token. -/
def scalar (inFlow : Bool) (indent : Nat) : List Char → Option (Scalar × Gap × List Char)
  | '\'' :: cs => do
    let (text, rest) ← singleQuoted [] .empty false cs
    some (⟨String.ofList text, false⟩, skipGap inFlow true false .none rest)
  | '"' :: cs => do
    let (text, rest) ← doubleQuoted .text [] .empty false cs
    some (⟨String.ofList text, false⟩, skipGap inFlow true false .none rest)
  | cs =>
    if startsPlain inFlow cs then do
      let (text, gap, rest) ← plain inFlow indent [] .empty 0 cs
      some (⟨String.ofList text, true⟩, skipGap inFlow (inFlow || !gap.broke) false gap rest)
    else none

end DeckFilter.Settings
