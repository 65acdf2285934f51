import DeckFilter.Settings.Number
import DeckFilter.Settings.Scan

/-!
# How a text is written

A text is written without quotes if it then reads back as the text it is and cannot be taken for
anything else; otherwise between single quotes, unless its characters need escapes. A text of
several lines is written line by line where that is possible.

* `Settings.Style`, `Settings.styleOf`: the ways to write a text, and the one that is taken;
* `Settings.inlineText`, `Settings.blockText`: the text as it is written.
-/

namespace DeckFilter.Settings

/-! ## Choosing a style -/

/-- Without quotes, between single or double quotes, or line by line. -/
inductive Style where
  | plain | single | double | literal
  deriving DecidableEq, Repr

/-- Characters that are written as escapes. -/
def needsEscape (c : Char) : Bool :=
  let n := c.toNat
  !(n == 10 || (0x20 ≤ n && n ≤ 0x7E) || (0xA0 ≤ n && n ≤ 0xFFFD && n != 0xFEFF) || 0x10000 ≤ n)

/-- Somewhere a character with one property comes right before one with another. -/
def hasPair (p q : Char → Bool) : List Char → Bool
  | a :: b :: cs => (p a && q b) || hasPair p q (b :: cs)
  | _ => false

/-- A blank comes right before a line break. -/
def hasTrailingBlank (cs : List Char) : Bool := hasPair (· == ' ') isBreak cs

/-- A blank comes right after a line break. -/
def hasLeadingBlank (cs : List Char) : Bool := hasPair isBreak (· == ' ') cs

/-- A text may not start like this without quotes. -/
def startsSpecial : List Char → Bool
  | [] => false
  | c :: cs =>
    [['-', '-', '-'], ['.', '.', '.']].any (·.isPrefixOf (c :: cs)) ||
      (if ['?', ':', '-'].contains c then atGap cs else isIndicator c)

/-- After its first character, a text without quotes may hold neither a colon before a gap nor a
number sign after a blank or line break. -/
def holdsSpecial : List Char → Bool
  | a :: b :: cs =>
    (b == ':' && atGap cs) || (b == '#' && (isBlank a || isBreak a)) || holdsSpecial (b :: cs)
  | _ => false

/-- A text can be written without quotes. -/
def allowsPlain (cs : List Char) : Bool :=
  !(cs.any needsEscape || cs.any isBreak || cs.head? == some ' ' || cs.getLast? == some ' ' ||
    startsSpecial cs || holdsSpecial cs)

/-- A text can be written between single quotes. -/
def allowsSingle (cs : List Char) : Bool :=
  !(cs.any needsEscape || hasTrailingBlank cs || hasLeadingBlank cs)

/-- A text can be written line by line. -/
def allowsLiteral (cs : List Char) : Bool :=
  !(cs.any needsEscape || hasTrailingBlank cs || cs.getLast? == some ' ')

/-- The spellings of nothing. -/
def nullWords : List String := ["", "~", "null", "Null", "NULL"]

/-- The spellings of a truth value. -/
def boolWords : List (String × Bool) :=
  [("true", true), ("True", true), ("TRUE", true), ("false", false), ("False", false),
    ("FALSE", false)]

/-- Without quotes a text would be taken for something else. -/
def isAmbiguous (s : String) : Bool :=
  nullWords.contains s || (boolWords.lookup s).isSome || isNumber s

/-- How a text is written. -/
def styleOf (s : String) : Style :=
  let cs := s.toList
  if cs.contains '\n' then if allowsLiteral cs then .literal else .double
  else if !isAmbiguous s && allowsPlain cs then .plain
  else if allowsSingle cs then .single
  else .double

/-! ## Writing -/

/-- The first blanks of an indented line. -/
def pad (indent : Nat) : List Char := List.replicate indent ' '

/-- The rest of a text between single quotes. Lines after a break are indented. -/
def singleText (indent : Nat) : (afterBreak : Bool) → List Char → List Char
  | afterBreak, [] => (if afterBreak then pad indent else []) ++ ['\'']
  | afterBreak, c :: cs =>
    if isBreak c then c :: singleText indent true cs
    else
      (if afterBreak then pad indent else []) ++
        (if c = '\'' then ['\'', '\''] else [c]) ++ singleText indent false cs

/-- A number in hexadecimal with at least so many digits. -/
def hexDigits (width n : Nat) : List Char :=
  let ds := (Nat.toDigits 16 n).map Char.toUpper
  List.replicate (width - ds.length) '0' ++ ds

/-- A character between double quotes. -/
def doubleChar (c : Char) : List Char :=
  if c = '"' then ['\\', '"']
  else if c = '\\' then ['\\', '\\']
  else if !needsEscape c && !isBreak c then [c]
  else
    match c.toNat with
    | 0x00 => ['\\', '0']
    | 0x07 => ['\\', 'a']
    | 0x08 => ['\\', 'b']
    | 0x09 => ['\\', 't']
    | 0x0A => ['\\', 'n']
    | 0x0B => ['\\', 'v']
    | 0x0C => ['\\', 'f']
    | 0x0D => ['\\', 'r']
    | 0x1B => ['\\', 'e']
    | 0x85 => ['\\', 'N']
    | 0x2028 => ['\\', 'L']
    | 0x2029 => ['\\', 'P']
    | n =>
      if n ≤ 0xFF then '\\' :: 'x' :: hexDigits 2 n
      else if n ≤ 0xFFFF then '\\' :: 'u' :: hexDigits 4 n
      else '\\' :: 'U' :: hexDigits 8 n

/-- A text as it is written on one line. -/
def inlineText (indent : Nat) (s : String) : List Char :=
  match styleOf s with
  | .plain => s.toList
  | .single => '\'' :: singleText indent false s.toList
  | _ => '"' :: s.toList.flatMap doubleChar ++ ['"']

/-- The lines of a text that is written line by line. -/
def literalText (indent : Nat) : (afterBreak : Bool) → List Char → List Char
  | afterBreak, [] => if afterBreak then [] else ['\n']
  | afterBreak, c :: cs =>
    if isBreak c then c :: literalText indent true cs
    else (if afterBreak then pad indent else []) ++ c :: literalText indent false cs

/-- What the line breaks at the end of a text are worth: all are dropped, all but one, or none. -/
def chomping (cs : List Char) : List Char :=
  match cs.reverse with
  | [] => ['-']
  | c :: rest =>
    if !isBreak c then ['-']
    else
      match rest with
      | [] => ['+']
      | d :: _ => if isBreak d then ['+'] else []

/-- A text up to the end of its last line. -/
def blockText (indent : Nat) (s : String) : List Char :=
  if styleOf s = .literal then
    let hint := match s.toList with
      | [] => []
      | c :: _ => if c = ' ' ∨ isBreak c then ['2'] else []
    '|' :: hint ++ chomping s.toList ++ '\n' :: literalText indent true s.toList
  else inlineText indent s ++ ['\n']

end DeckFilter.Settings
