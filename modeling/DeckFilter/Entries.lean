/-!
# Entries in the order they were set

A list of keys and values in which every key is set at most once. Setting a key again moves it to
the end.

* `Entries.set`, `Entries.find?`, `Entries.ofList`.
-/

namespace DeckFilter

/-- Keys and values in the order they were set. -/
abbrev Entries (α : Type) := List (String × α)

namespace Entries

variable {α : Type}

/-- Set a key. -/
def set (key : String) (value : α) (es : Entries α) : Entries α :=
  es.filter (fun e => e.1 != key) ++ [(key, value)]

/-- The value a key is set to. -/
def find? (key : String) (es : Entries α) : Option α := es.lookup key

/-- Set one key after the other. -/
def ofList (es : List (String × α)) : Entries α := es.foldl (fun acc e => set e.1 e.2 acc) []

end Entries

end DeckFilter
