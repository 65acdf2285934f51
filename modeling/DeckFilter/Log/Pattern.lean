import DeckFilter.Text.Alphanumeric
import DeckFilter.Text.Digits

/-!
# Patterns for the values of fields

A condition on the value of a field is a number or a pattern. A pattern is made of characters, of
classes in brackets, of groups in parentheses and of alternatives between bars; a star, a plus sign
or a question mark repeats what stands before it.

* `Log.escapedChar`: the characters after a backslash;
* `Log.afterClass`: classes, and the ranges in them;
* `Log.groupStart`: the ways a group starts, one of which only sets flags;
* `Log.isPattern`: whether a text is a pattern;
* `Log.isFieldValue`: whether a text is a condition on the value of a field.
-/

namespace DeckFilter.Log

/-! ## Escapes -/

/-- The character that a letter stands for after a backslash. -/
def escapeLetter : Char → Option Char
  | 'a' => some '\x07'
  | 't' => some '\t'
  | 'n' => some '\n'
  | 'v' => some '\x0b'
  | 'f' => some '\x0c'
  | 'r' => some '\r'
  | _ => none

/-- The number of hexadecimal digits after a letter that starts the number of a character. -/
def escapeWidth : Char → Option Nat
  | 'x' => some 2
  | 'u' => some 4
  | 'U' => some 8
  | _ => none

/-- A character that stands for itself after a backslash. -/
def standsForItself (c : Char) : Bool :=
  c.toNat < 128 && !c.isAlphanum && c != '<' && c != '>'

/-- The character whose number so many hexadecimal digits write, and the text after them. -/
def numberedChar (width : Nat) (cs : List Char) : Option (Char × List Char) := do
  let ds ← (cs.take width).mapM Text.hexValue
  let n := Text.ofDigits 16 ds
  if ds.length = width ∧ n.isValidChar then some (Char.ofNat n, cs.drop width) else none

/-- The character that is written after a backslash, and the text after it. -/
def escapedChar : List Char → Option (Char × List Char)
  | [] => none
  | c :: cs =>
    match escapeWidth c, escapeLetter c with
    | some width, _ => numberedChar width cs
    | none, some x => some (x, cs)
    | none, none => if standsForItself c then some (c, cs) else none

/-- The text after what a backslash stands before: a character, or the start or the end of the
text. -/
def afterEscape : List Char → Option (List Char)
  | 'A' :: cs => some cs
  | 'z' :: cs => some cs
  | cs => (escapedChar cs).map (·.2)

/-! ## Classes -/

/-- A character in a class, and the text after it. -/
def classChar : List Char → Option (Char × List Char)
  | [] => none
  | '\\' :: cs => escapedChar cs
  | c :: cs => some (c, cs)

/-- The text after an item of a class: a character, or a range with its ends in order. A dash before
another dash or a closing bracket makes no range. -/
def afterClassItem (cs : List Char) : Option (List Char) := do
  let (low, rest) ← classChar cs
  match rest with
  | '-' :: next :: more =>
    if next = '-' ∨ next = ']' then some rest
    else
      let (high, rest) ← classChar (next :: more)
      if low ≤ high then some rest else none
  | _ => some rest

/-- The text after the start of a class. A caret turns the class round; dashes that come first stand
for themselves, and so does a closing bracket. -/
def afterOpening (cs : List Char) : List Char :=
  match if cs.head? = some '^' then cs.tail else cs with
  | ']' :: cs => cs
  | cs => cs.dropWhile (· = '-')

/-- The text after the bracket that closes a class, `depth` more classes being open inside it. Two
ampersands, dashes or tildes combine what stands around them. -/
def afterItems : (fuel depth : Nat) → List Char → Option (List Char)
  | 0, _, _ => none
  | _ + 1, _, [] => none
  | fuel + 1, depth, c :: cs =>
    match c, cs with
    | '[', cs => afterItems fuel (depth + 1) (afterOpening cs)
    | ']', cs => if depth = 0 then some cs else afterItems fuel (depth - 1) cs
    | '&', '&' :: cs => afterItems fuel depth cs
    | '-', '-' :: cs => afterItems fuel depth cs
    | '~', '~' :: cs => afterItems fuel depth cs
    | c, cs => (afterClassItem (c :: cs)).bind (afterItems fuel depth)

/-- The text after a class, from behind its opening bracket on. -/
def afterClass (cs : List Char) : Option (List Char) :=
  afterItems (cs.length + 1) 0 (afterOpening cs)

/-! ## Groups -/

/-- How a group starts: with content, or as flags alone, which are no group. -/
inductive GroupStart where
  | content
  | flags
  deriving DecidableEq, Repr

/-- A name of a group. -/
def isGroupName : List Char → Bool
  | [] => false
  | c :: cs =>
    (c == '_' || (Text.isAlphanumeric c && !c.isDigit)) &&
      cs.all fun c => ['_', '.', '[', ']'].contains c || Text.isAlphanumeric c

/-- The flags that can be set, and the dash before those that are taken back. -/
def flagLetters : List Char := ['i', 'm', 's', 'U', 'u', 'R', 'x', '-']

/-- Flags, each at most once. Letters of either case cannot be taken for one another. -/
def areFlags (cs : List Char) : Bool :=
  cs.all flagLetters.contains && decide cs.Nodup && cs.getLast? != some '-' &&
    !(cs.takeWhile (· != '-')).contains 'i'

/-- The text after the name of a group. -/
def afterGroupName (cs : List Char) : Option (List Char) :=
  match cs.span (· != '>') with
  | (name, _ :: rest) => if isGroupName name then some rest else none
  | (_, []) => none

/-- How a group starts behind its parenthesis, and the text after that. -/
def groupStart : List Char → Option (GroupStart × List Char)
  | '?' :: 'P' :: '<' :: cs => (afterGroupName cs).map (.content, ·)
  | '?' :: '<' :: cs => (afterGroupName cs).map (.content, ·)
  | '?' :: cs =>
    match cs.span fun c => c != ':' && c != ')' with
    | (flags, ':' :: rest) => if areFlags flags then some (.content, rest) else none
    | (flags, _ :: rest) => if areFlags flags && !flags.isEmpty then some (.flags, rest) else none
    | (_, []) => none
  | cs => some (.content, cs)

/-! ## Patterns -/

/-- The rest of a pattern, `depth` groups being open; the flag says whether something stands there
that can be repeated. -/
def isPatternFrom : (fuel depth : Nat) → (repeatable : Bool) → List Char → Bool
  | 0, _, _, _ => false
  | _ + 1, depth, _, [] => depth == 0
  | fuel + 1, depth, repeatable, c :: cs =>
    match c with
    | '\\' => (afterEscape cs).any (isPatternFrom fuel depth true)
    | '[' => (afterClass cs).any (isPatternFrom fuel depth true)
    | '(' =>
      match groupStart cs with
      | some (.content, cs) => isPatternFrom fuel (depth + 1) false cs
      | some (.flags, cs) => isPatternFrom fuel depth false cs
      | none => false
    | ')' => depth != 0 && isPatternFrom fuel (depth - 1) true cs
    | '|' => isPatternFrom fuel depth false cs
    | '*' => repeatable && isPatternFrom fuel depth true cs
    | '+' => repeatable && isPatternFrom fuel depth true cs
    | '?' => repeatable && isPatternFrom fuel depth true cs
    | '\x7b' => false
    | _ => isPatternFrom fuel depth true cs

/-- A text is a pattern. -/
def isPattern (cs : List Char) : Bool := isPatternFrom (cs.length + 1) 0 false cs

/-! ## Conditions -/

/-- The exponent of a number, if there is one. -/
def isExponent : List Char → Bool
  | [] => true
  | e :: cs =>
    (e == 'e' || e == 'E') &&
      match cs with
      | '-' :: rest => !rest.isEmpty && rest.all Char.isDigit
      | rest => (Text.numeral? rest).isSome

/-- A number in decimal digits, without a sign. -/
def isDecimal (cs : List Char) : Bool :=
  let (whole, rest) := Text.digits cs
  let (fraction, rest) := match rest with
    | '.' :: rest => Text.digits rest
    | rest => ([], rest)
  !(whole ++ fraction).isEmpty && isExponent rest

/-- The words for infinity and for what is no number, in any case. -/
def isNumberWord (cs : List Char) : Bool :=
  ["inf", "infinity", "nan"].contains (String.ofList cs).toLower

/-- A text is a condition on the value of a field. Only a number starts with a plus sign. -/
def isFieldValue : List Char → Bool
  | '+' :: cs => isDecimal cs || isNumberWord cs
  | cs => isPattern cs

end DeckFilter.Log
