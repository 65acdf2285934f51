import DeckFilter.Document

/-!
# LaTeX markup

* `Latex.escape`: the characters of a literal that need a backslash;
* `Latex.colorbox`, `Latex.textcolor`, … `Latex.onslide`: commands around a text;
* `Latex.opening`, `Latex.closing`, `Latex.wrap`: environments around blocks.
-/

namespace DeckFilter.Latex

/-- Underscore and ampersand get a backslash. -/
def escapeChar (c : Char) : List Char :=
  if c = '_' ∨ c = '&' then ['\\', c] else [c]

/-- A literal with its underscores and ampersands escaped. -/
def escape (text : String) : String := String.ofList (text.toList.flatMap escapeChar)

/-- A text in braces. -/
def group (text : String) : String := "\x7b" ++ text ++ "\x7d"

/-- A text in a colored box. -/
def colorbox (text color : String) : String := "\\colorbox" ++ group color ++ group text

/-- A text in a color. -/
def textcolor (text color : String) : String := "\\textcolor" ++ group color ++ group text

/-- A text in bold italics. -/
def boldItalic (text : String) : String := "\\textbf" ++ group ("\\textit" ++ group text)

/-- A text in a typewriter face. -/
def monospace (text : String) : String := "\\texttt" ++ group text

/-- A text that stands out from the second overlay on. -/
def answerHighlight (text : String) : String :=
  "\\textit<2>" ++ group ("\\textbf<2>" ++
    group ("\\textcolor<2>" ++ group "green!65!black" ++ group text))

/-- A text that appears with the second overlay. -/
def onslide (text : String) : String := "\\onslide<2->" ++ group text

/-- The start of an environment. -/
def opening (environment : String) : String := "\\begin" ++ group environment

/-- The end of an environment. -/
def closing (environment : String) : String := "\\end" ++ group environment

/-- Blocks between two raw blocks. -/
def wrap (rawFormat before : String) (content : List Block) (after : String) : List Block :=
  .raw rawFormat before :: content ++ [.raw rawFormat after]

end DeckFilter.Latex
