import DeckFilter.Document
import DeckFilter.Json

/-!
# Documents as JSON

Every node is an object with its tag under `t` and, if it has any, its content under `c`; content of
several parts is an array of them. A caption without a long part is written like an empty one, and
a width that is no finite number as null.

* `Attr.toJson`, `Inline.toJson`, `Block.toJson`, `MetaValue.toJson`, `Document.toJson`.
-/

namespace DeckFilter

open Json (object array string number)

/-- A tag with content. -/
def tagged (tag : String) (content : Json) : Json := object [("c", content), ("t", string tag)]

/-- A tag without content. -/
def bare (tag : String) : Json := object [("t", string tag)]

/-- A signed 64-bit integer. -/
def integerToJson (n : Int64) : Json := number (.integer n.toInt)

/-- An array of strings. -/
def stringsToJson (ss : List String) : Json := array (ss.map string)

/-- An attribute: identifier, classes and pairs. -/
def Attr.toJson (a : Attr) : Json :=
  array [string a.id, stringsToJson a.classes,
    array (a.pairs.map fun (k, v) => array [string k, string v])]

/-- A target: address and title. -/
def Target.toJson (t : Target) : Json := array [string t.url, string t.title]

/-! ## Enumerations -/

/-- The tag of a kind of quotation marks. -/
def QuoteKind.tag : QuoteKind → String
  | single => "SingleQuote"
  | double => "DoubleQuote"

/-- The tag of a kind of formula. -/
def MathKind.tag : MathKind → String
  | display => "DisplayMath"
  | inline => "InlineMath"

/-- The tag of a citation mode. -/
def CitationMode.tag : CitationMode → String
  | authorInText => "AuthorInText"
  | suppressAuthor => "SuppressAuthor"
  | normal => "NormalCitation"

/-- The tag of a style of numerals. -/
def NumberStyle.tag : NumberStyle → String
  | default => "DefaultStyle"
  | numberedExample => "Example"
  | decimal => "Decimal"
  | lowerRoman => "LowerRoman"
  | upperRoman => "UpperRoman"
  | lowerAlpha => "LowerAlpha"
  | upperAlpha => "UpperAlpha"

/-- The tag of what encloses numerals. -/
def NumberDelim.tag : NumberDelim → String
  | default => "DefaultDelim"
  | period => "Period"
  | oneParen => "OneParen"
  | twoParens => "TwoParens"

/-- The tag of an alignment. -/
def Alignment.tag : Alignment → String
  | left => "AlignLeft"
  | right => "AlignRight"
  | center => "AlignCenter"
  | default => "AlignDefault"

/-- A numbering: start, style and delimiter. -/
def Numbering.toJson (n : Numbering) : Json :=
  array [integerToJson n.start, bare n.style.tag, bare n.delim.tag]

/-- A column width. -/
def ColumnWidth.toJson : ColumnWidth → Json
  | default => bare "ColWidthDefault"
  | share width =>
    tagged "ColWidth" (if width.isFinite then number (.double width) else .null)

/-- A column: alignment and width. -/
def Column.toJson (c : Column) : Json := array [bare c.alignment.tag, c.width.toJson]

/-! ## Nodes -/

mutual

/-- An inline. -/
def Inline.toJson : Inline → Json
  | .str text => tagged "Str" (string text)
  | .styled style content => tagged style.tag (array (inlinesToJson content))
  | .quoted kind content => tagged "Quoted" (array [bare kind.tag, array (inlinesToJson content)])
  | .cite citations content =>
    tagged "Cite" (array [array (citationsToJson citations), array (inlinesToJson content)])
  | .code attr text => tagged "Code" (array [attr.toJson, string text])
  | .space => bare "Space"
  | .softBreak => bare "SoftBreak"
  | .lineBreak => bare "LineBreak"
  | .math kind text => tagged "Math" (array [bare kind.tag, string text])
  | .raw format text => tagged "RawInline" (array [string format, string text])
  | .link attr content target =>
    tagged "Link" (array [attr.toJson, array (inlinesToJson content), target.toJson])
  | .image attr description target =>
    tagged "Image" (array [attr.toJson, array (inlinesToJson description), target.toJson])
  | .note content => tagged "Note" (array (blocksToJson content))
  | .span attr content => tagged "Span" (array [attr.toJson, array (inlinesToJson content)])

/-- The inlines of a list. -/
def inlinesToJson : List Inline → List Json
  | [] => []
  | x :: xs => x.toJson :: inlinesToJson xs

/-- The citations of a list. -/
def citationsToJson : List (Citation Inline) → List Json
  | [] => []
  | ⟨id, before, after, mode, noteNumber, hash⟩ :: rest =>
    object [("citationHash", integerToJson hash), ("citationId", string id),
      ("citationMode", bare mode.tag), ("citationNoteNum", integerToJson noteNumber),
      ("citationPrefix", array (inlinesToJson before)),
      ("citationSuffix", array (inlinesToJson after))] :: citationsToJson rest

/-- A block. -/
def Block.toJson : Block → Json
  | .plain content => tagged "Plain" (array (inlinesToJson content))
  | .para content => tagged "Para" (array (inlinesToJson content))
  | .lineBlock lines => tagged "LineBlock" (array (linesToJson lines))
  | .codeBlock attr text => tagged "CodeBlock" (array [attr.toJson, string text])
  | .raw format text => tagged "RawBlock" (array [string format, string text])
  | .blockQuote content => tagged "BlockQuote" (array (blocksToJson content))
  | .orderedList numbering items =>
    tagged "OrderedList" (array [numbering.toJson, array (itemsToJson items)])
  | .bulletList items => tagged "BulletList" (array (itemsToJson items))
  | .definitionList items => tagged "DefinitionList" (array (definitionsToJson items))
  | .header level attr content =>
    tagged "Header"
      (array [number (.integer level.toNat), attr.toJson, array (inlinesToJson content)])
  | .horizontalRule => bare "HorizontalRule"
  | .table attr caption columns head bodies foot =>
    tagged "Table" (array [attr.toJson, captionToJson caption,
      array (columns.map Column.toJson), tableEndToJson head, array (tableBodiesToJson bodies),
      tableEndToJson foot])
  | .figure attr caption content =>
    tagged "Figure" (array [attr.toJson, captionToJson caption, array (blocksToJson content)])
  | .div attr content => tagged "Div" (array [attr.toJson, array (blocksToJson content)])

/-- The blocks of a list. -/
def blocksToJson : List Block → List Json
  | [] => []
  | x :: xs => x.toJson :: blocksToJson xs

/-- The lines of a line block. -/
def linesToJson : List (List Inline) → List Json
  | [] => []
  | x :: xs => array (inlinesToJson x) :: linesToJson xs

/-- The items of a list. -/
def itemsToJson : List (List Block) → List Json
  | [] => []
  | x :: xs => array (blocksToJson x) :: itemsToJson xs

/-- The items of a definition list. -/
def definitionsToJson : List (Definition Inline Block) → List Json
  | [] => []
  | ⟨term, definitions⟩ :: rest =>
    array [array (inlinesToJson term), array (itemsToJson definitions)] :: definitionsToJson rest

/-- A caption. -/
def captionToJson : Caption Inline Block → Json
  | ⟨short, long⟩ => array [shortToJson short, longToJson long]

/-- The short part of a caption. -/
def shortToJson : Option (List Inline) → Json
  | none => .null
  | some content => array (inlinesToJson content)

/-- The long part of a caption. -/
def longToJson : Option (List Block) → Json
  | none => array []
  | some content => array (blocksToJson content)

/-- The head or the foot of a table. -/
def tableEndToJson : TableEnd Block → Json
  | ⟨attr, rows⟩ => array [attr.toJson, array (rowsToJson rows)]

/-- The bodies of a table. -/
def tableBodiesToJson : List (TableBody Block) → List Json
  | [] => []
  | ⟨attr, headColumns, head, rows⟩ :: rest =>
    array [attr.toJson, integerToJson headColumns, array (rowsToJson head),
      array (rowsToJson rows)] :: tableBodiesToJson rest

/-- The rows of a list. -/
def rowsToJson : List (Row Block) → List Json
  | [] => []
  | ⟨attr, cells⟩ :: rest => array [attr.toJson, array (cellsToJson cells)] :: rowsToJson rest

/-- The cells of a row. -/
def cellsToJson : List (Cell Block) → List Json
  | [] => []
  | ⟨attr, alignment, rowSpan, colSpan, content⟩ :: rest =>
    array [attr.toJson, bare alignment.tag, integerToJson rowSpan, integerToJson colSpan,
      array (blocksToJson content)] :: cellsToJson rest

end

/-! ## Metadata and documents -/

mutual

/-- A metadata value. -/
def MetaValue.toJson : MetaValue → Json
  | .string s => tagged "MetaString" (string s)
  | .bool b => tagged "MetaBool" (.bool b)
  | .inlines content => tagged "MetaInlines" (array (inlinesToJson content))
  | .blocks content => tagged "MetaBlocks" (array (blocksToJson content))
  | .list items => tagged "MetaList" (array (metaItemsToJson items))
  | .map entries => tagged "MetaMap" (.ofMembers (metaEntriesToJson entries))

/-- The items of a metadata list. -/
def metaItemsToJson : List MetaValue → List Json
  | [] => []
  | v :: rest => v.toJson :: metaItemsToJson rest

/-- The entries of a metadata map. -/
def metaEntriesToJson : List (String × MetaValue) → List (String × Json)
  | [] => []
  | (k, v) :: rest => (k, v.toJson) :: metaEntriesToJson rest

end

/-- A document. -/
def Document.toJson (d : Document) : Json :=
  object [("blocks", array (blocksToJson d.blocks)),
    ("meta", .ofMembers (metaEntriesToJson d.metadata)),
    ("pandoc-api-version", array (d.apiVersion.map fun n => number (.integer n.toNat)))]

end DeckFilter
