import DeckFilter.Settings.Style

/-!
# Writing settings

Every setting starts a line. The items of a list stand in the column of its setting, the entries of
a table are indented.

* `Settings.text`: the text of a list of settings. A scalar that is marked as plain is a word that
  is written as it is; any other one is a text that reads back as itself.
-/

namespace DeckFilter.Settings

/-- How far what belongs to an entry is indented. -/
def indentStep : Nat := 2

/-- The longest key, in bytes, that is written on the line of its value. -/
def shortKeyBytes : Nat := 128

/-- A scalar up to the end of its line. -/
def Scalar.line (indent : Nat) (s : Scalar) : List Char :=
  if s.plain then s.text.toList ++ ['\n'] else blockText indent s.text

/-- A key with its colon. A key that is long or has several lines stands after a question mark. -/
def keyText (indent : Nat) (key : Scalar) : List Char :=
  if key.text.utf8ByteSize ≤ shortKeyBytes && !key.text.toList.any isBreak then
    pad indent ++ inlineText (indent + indentStep) key.text ++ [':']
  else pad indent ++ ['?', ' '] ++ key.line (indent + indentStep) ++ pad indent ++ [':']

/-- A key and a scalar. -/
def entryText (indent : Nat) (entry : Scalar × Scalar) : List Char :=
  keyText indent entry.1 ++ ' ' :: entry.2.line (indent + indentStep)

/-- What follows the colon of a setting. -/
def Value.lines : Value → List Char
  | .scalar s => ' ' :: s.line indentStep
  | .list [] => [' ', '[', ']', '\n']
  | .list items => '\n' :: items.flatMap fun item => '-' :: ' ' :: item.line indentStep
  | .table [] => [' ', '\x7b', '\x7d', '\n']
  | .table entries => '\n' :: entries.flatMap (entryText indentStep)

/-- The text of a setting. -/
def settingText (setting : Entry) : List Char := keyText 0 setting.1 ++ setting.2.lines

/-- The text of a list of settings. -/
def text (settings : List Entry) : String := String.ofList (settings.flatMap settingText)

end DeckFilter.Settings
