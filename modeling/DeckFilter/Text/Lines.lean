/-!
# Lines and pieces of text

* `Text.lines`: a text cut after each line feed;
* `Text.contains`: whether one text occurs in another;
* `Text.pieces`: a text cut at a separator.
-/

namespace DeckFilter.Text

/-- The lines of a text, each with its line feed; the last one may lack it. -/
def lines : List Char → List (List Char)
  | [] => []
  | c :: cs =>
    if c = '\n' then [c] :: lines cs
    else
      match lines cs with
      | [] => [[c]]
      | l :: ls => (c :: l) :: ls

/-- The text `part` occurs in a text. -/
def contains (part : List Char) : List Char → Bool
  | [] => part.isEmpty
  | c :: cs => part.isPrefixOf (c :: cs) || contains part cs

/-- The pieces of a text between the characters `sep`; there is always at least one. -/
def pieces (sep : Char) (s : String) : List String := (s.toList.splitOn sep).map String.ofList

end DeckFilter.Text
