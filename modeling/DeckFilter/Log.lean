import DeckFilter.Text.Shapeless

/-!
# Log events

* `Log.Level`, `Log.Event`: what happened, where and how much it matters;
* `Log.quoted`, `Log.quotedBytes`: a text, or bytes that are none, as the value of a field;
* `Log.Event.line`: the line of an event.
-/

namespace DeckFilter.Log

/-- How much an event matters, from most to least. -/
inductive Level where
  | error | warn | info | debug | trace
  deriving DecidableEq, Repr

/-- The rank of a level: the lower, the more it matters. -/
def Level.rank : Level → Nat
  | error => 1
  | warn => 2
  | info => 3
  | debug => 4
  | trace => 5

/-- The name of a level, five characters wide. -/
def Level.label : Level → String
  | error => "ERROR"
  | warn => " WARN"
  | info => " INFO"
  | debug => "DEBUG"
  | trace => "TRACE"

/-- An event: its level, the part of the program it comes from, a message, and fields with their
values as they are shown. -/
structure Event where
  level : Level
  target : String
  message : String
  fields : List (String × String)
  deriving DecidableEq, Repr

/-- The lower-case hexadecimal digits of a number. -/
def hex (n : Nat) : String := String.ofList (Nat.toDigits 16 n)

/-- A character of a quoted text: one that shows nothing of its own is given by its number. -/
def quotedChar (c : Char) : String :=
  if c = '"' then "\\\"" else if c = '\\' then "\\\\"
  else if c = '\n' then "\\n" else if c = '\r' then "\\r" else if c = '\t' then "\\t"
  else if c.toNat = 0 then "\\0"
  else if Text.isShapeless c then "\\u\x7b" ++ hex c.toNat ++ "\x7d"
  else c.toString

/-- A text between quotes. -/
def quoted (s : String) : String := "\"" ++ String.join (s.toList.map quotedChar) ++ "\""

/-- Two upper-case hexadecimal digits. -/
def hexByte (b : UInt8) : String :=
  String.ofList [(Nat.digitChar (b.toNat / 16)).toUpper, (Nat.digitChar (b.toNat % 16)).toUpper]

/-- What bytes show from a place on: the characters of a text, and the number of every byte that
belongs to none. -/
def quotedFrom (bytes : ByteArray) : (fuel place : Nat) → String
  | 0, _ => ""
  | fuel + 1, place =>
    if bytes.size ≤ place then ""
    else
      match bytes.utf8DecodeChar? place with
      | some c => quotedChar c ++ quotedFrom bytes fuel (place + c.utf8Size)
      | none => "\\x" ++ hexByte (bytes.get! place) ++ quotedFrom bytes fuel (place + 1)

/-- Bytes between quotes. -/
def quotedBytes (bytes : ByteArray) : String := "\"" ++ quotedFrom bytes bytes.size 0 ++ "\""

/-- A character of a message: controls that could drive a terminal are spelt out. -/
def messageChar (c : Char) : String :=
  if c.toNat = 27 then "\\x1b" else if c.toNat = 7 then "\\x07" else if c.toNat = 8 then "\\x08"
  else if c.toNat = 12 then "\\x0c" else if c.toNat = 127 then "\\x7f"
  else if 128 ≤ c.toNat ∧ c.toNat < 160 then "\\u\x7b" ++ hex c.toNat ++ "\x7d"
  else c.toString

/-- The line of an event, after a time stamp if there is one. -/
def Event.line (stamp : Option String) (e : Event) : String :=
  (match stamp with
    | some stamp => stamp ++ " "
    | none => "") ++ e.level.label ++ " " ++ e.target ++ ": " ++
    String.join (e.message.toList.map messageChar) ++
    String.join (e.fields.map fun (k, v) => " " ++ k ++ "=" ++ v) ++ "\n"

end DeckFilter.Log
