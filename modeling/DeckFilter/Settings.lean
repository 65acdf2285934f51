/-!
# Settings

The part of YAML that a configuration file can use: a table whose values are scalars, lists of
scalars and tables of scalars. Everything nested deeper is no settings file.

* `Settings.Scalar`, `Settings.Value`, `Settings.Entry`: what a file says;
* `Settings.isBreak`, `Settings.isBlank`: the characters between tokens.
-/

namespace DeckFilter.Settings

/-- A scalar is the text it is written as; only without quotes can it mean something else. -/
structure Scalar where
  text : String
  plain : Bool
  deriving DecidableEq, Repr

/-- The scalar of a place where nothing is written. -/
def Scalar.nothing : Scalar := ⟨"", true⟩

/-- The value of a setting. -/
inductive Value where
  | scalar (s : Scalar)
  | list (items : List Scalar)
  | table (entries : List (Scalar × Scalar))
  deriving DecidableEq, Repr

/-- A setting: a key and its value. -/
abbrev Entry := Scalar × Value

/-! ## Characters -/

/-- Characters that end a line. -/
def isBreak (c : Char) : Bool :=
  c == '\n' || c == '\r' || c == '\u0085' || c == '\u2028' || c == '\u2029'

/-- Blanks within a line. -/
def isBlank (c : Char) : Bool := c == ' ' || c == '\t'

/-- A blank, a line break or the end comes next. -/
def atGap : List Char → Bool
  | [] => true
  | c :: _ => isBlank c || isBreak c

/-- Characters that may stand in a file as they are. -/
def isAllowed (c : Char) : Bool :=
  let n := c.toNat
  n == 9 || n == 10 || n == 13 || (0x20 ≤ n && n ≤ 0x7E) || n == 0x85 ||
    (0xA0 ≤ n && n ≤ 0xFFFD) || 0x10000 ≤ n

end DeckFilter.Settings
