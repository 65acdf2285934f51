/-!
# Why a text is no document

* `Expectation`: what a JSON value should have been;
* `DecodeError`, `DecodeError.message`: the errors;
* `Decoded`, `unmet`: results of the reader.
-/

namespace DeckFilter

/-- What a JSON value should have been. -/
inductive Expectation where
  | object (what : String)
  | map (what : String)
  | array (what : String)
  | tuple (what : String)
  | size (what : String) (n : Nat)
  | string (what : String)
  | integer (what : String)
  | boolean (what : String)
  | versionNumbers
  | headerLevel
  | columnWidth
  deriving DecidableEq, Repr

/-- The wording of an expectation. -/
def Expectation.message : Expectation → String
  | object what => s!"Expected object for {what}"
  | map what => s!"{what} must be object"
  | array what => s!"{what} must be array"
  | tuple what => s!"{what} content must be array"
  | size what n => s!"{what} array must have {n} elements"
  | string what => s!"{what} must be string"
  | integer what => s!"{what} must be integer"
  | boolean what => s!"{what} must be boolean"
  | versionNumbers => "pandoc-api-version entries must be integers"
  | headerLevel => "Header level must be a positive integer"
  | columnWidth => "ColWidth must be a number"

/-- Why a text is no document. -/
inductive DecodeError where
  | notJson
  | missing (field : String)
  | mismatch (expected : Expectation)
  | unknownTag (kind : String) (tag : String)
  deriving DecidableEq, Repr

/-- The wording of an error. -/
def DecodeError.message : DecodeError → String
  | notJson => "Invalid JSON: "
  | missing field => s!"Missing required field: {field}"
  | mismatch expected => s!"Invalid type: {expected.message}"
  | unknownTag kind tag => s!"Unsupported variant: {kind}: {tag}"

/-- Results of the reader. -/
abbrev Decoded (α : Type) := Except DecodeError α

/-- The failure of an expectation. -/
def unmet {α : Type} (expected : Expectation) : Decoded α := .error (.mismatch expected)

end DeckFilter
