import DeckFilter.Settings.Block
import DeckFilter.Text.Space

/-!
# Files of settings

A file holds one document, a table by indentation or in braces. Three dashes may open the document
and three dots may close it; a file without text sets nothing.

* `Settings.normalize`: the text of a file with one kind of line break;
* `Settings.ofText?`: the settings of a file.
-/

namespace DeckFilter.Settings

/-- Every line break that is no separator becomes a line feed. -/
def normalize : List Char → List Char
  | [] => []
  | '\r' :: '\n' :: cs => '\n' :: normalize cs
  | c :: cs => (if c = '\r' ∨ c = '\u0085' then '\n' else c) :: normalize cs

/-- Three dashes that stand alone. -/
def isStart : List Char → Bool
  | '-' :: '-' :: '-' :: cs => atGap cs
  | _ => false

/-- Nothing follows but gaps and three dots, each time on a line of their own. -/
def onlyDots : (fuel : Nat) → Gap → List Char → Bool
  | 0, _, rest => rest.isEmpty
  | fuel + 1, g, rest =>
    rest.isEmpty ||
      (g.atMarker rest && !isStart rest &&
        let (g, rest) := skipGap false true false .none (rest.drop 3)
        onlyDots fuel g rest)

/-- A document ends here: three dots may close it, even more than once, and nothing else follows. -/
def isEnd (g : Gap) (rest : List Char) : Bool := onlyDots rest.length g rest

/-- A table in braces, from behind the opening one on, up to the next token after it. -/
def flowRoot (cs : List Char) : Option (List Entry × Gap × List Char) := do
  let (entries, rest) ← flowTable 0 (.scalar .nothing) (flowValue 0) cs
  let (g, rest) := skipGap false true false .none rest
  some (entries, g, rest)

/-- The table of a document, and the gap after it. A table by indentation does not start on the line
of the three dashes. -/
def root (g : Gap) (cs : List Char) : Option (List Entry × Gap × List Char) :=
  match cs with
  | '\x7b' :: rest => flowRoot rest
  | cs => if g.broke then table (.scalar .nothing) valueBelow g.column cs else none

/-- The settings of a document, which the three dashes may have opened. -/
def document (opened : Bool) (g : Gap) (cs : List Char) : Option (List Entry) :=
  if g.atMarker cs || cs.isEmpty then
    if (opened || cs.isEmpty) && isEnd g cs then some [] else none
  else do
    let (entries, g, rest) ← root g cs
    if isEnd g rest then some entries else none

/-- The settings of a file. -/
def ofText? (text : String) : Option (List Entry) :=
  let cs := text.toList
  if cs.all Text.isSpace then some []
  else if !cs.all isAllowed then none
  else
    let (g, rest) := skipGap false false false .lineStart (normalize cs)
    if g.atMarker rest && isStart rest then
      let (g, rest) := skipGap false true false .none (rest.drop 3)
      document true g rest
    else document false g rest

end DeckFilter.Settings
