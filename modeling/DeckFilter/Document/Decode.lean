import DeckFilter.Document
import DeckFilter.Document.Shape

/-!
# Documents from JSON

The reader takes the parts of a node in a fixed order and gives up at the first that is not as it
should be. Members that it does not know are passed over.

A list of nodes is an array, so what stands at nesting depth zero is no list of nodes; the depth of
a value therefore bounds how far its reader goes down.

* `Attr.decode`, `Target.decode`, … `Column.decode`: parts without nodes;
* `Inline.decode`, `Block.decode`, `nodeReaders`: nodes;
* `inlinesOfJson`, `blocksOfJson`, `inlineOfJson`, `blockOfJson`, `metaOfJson`, `Document.ofJson`.
-/

namespace DeckFilter

/-! ## Attributes and enumerations -/

/-- A key/value pair. -/
def decodePair (v : Json) : Decoded (String × String) := do
  let (key, value) ← asPair "Key-value pair" v
  let key ← asString "Key" key
  let value ← asString "Value" value
  .ok (key, value)

/-- An attribute: identifier, classes and pairs. -/
def Attr.decode (v : Json) : Decoded Attr := do
  let (id, classes, pairs) ← asTriple "Attr" v
  let id ← asString "Attr id" id
  let classes ← (← asArray "Attr classes" classes).mapM (asString "Class")
  let pairs ← (← asArray "Attr key-values" pairs).mapM decodePair
  .ok ⟨id, classes, pairs⟩

/-- A target: address and title. -/
def Target.decode (v : Json) : Decoded Target := do
  let (url, title) ← asPair "Target" v
  let url ← asString "Target url" url
  let title ← asString "Target title" title
  .ok ⟨url, title⟩

/-- A kind of quotation marks. -/
def QuoteKind.decode : Json → Decoded QuoteKind :=
  asOneOf "QuoteType" [("SingleQuote", .single), ("DoubleQuote", .double)]

/-- A kind of formula. -/
def MathKind.decode : Json → Decoded MathKind :=
  asOneOf "MathType" [("InlineMath", .inline), ("DisplayMath", .display)]

/-- A citation mode. -/
def CitationMode.decode : Json → Decoded CitationMode :=
  asOneOf "CitationMode" [("AuthorInText", .authorInText), ("SuppressAuthor", .suppressAuthor),
    ("NormalCitation", .normal)]

/-- A style of numerals. -/
def NumberStyle.decode : Json → Decoded NumberStyle :=
  asOneOf "ListNumberStyle" [("DefaultStyle", .default), ("Example", .numberedExample),
    ("Decimal", .decimal), ("LowerRoman", .lowerRoman), ("UpperRoman", .upperRoman),
    ("LowerAlpha", .lowerAlpha), ("UpperAlpha", .upperAlpha)]

/-- What encloses numerals. -/
def NumberDelim.decode : Json → Decoded NumberDelim :=
  asOneOf "ListNumberDelim" [("DefaultDelim", .default), ("Period", .period),
    ("OneParen", .oneParen), ("TwoParens", .twoParens)]

/-- An alignment. -/
def Alignment.decode : Json → Decoded Alignment :=
  asOneOf "Alignment" [("AlignLeft", .left), ("AlignCenter", .center), ("AlignRight", .right),
    ("AlignDefault", .default)]

/-- A numbering: start, style and delimiter. -/
def Numbering.decode (v : Json) : Decoded Numbering := do
  let (start, style, delim) ← asTriple "ListAttributes" v
  let start ← asInteger "List start" start
  let style ← NumberStyle.decode style
  let delim ← NumberDelim.decode delim
  .ok ⟨start, style, delim⟩

/-- A column width. -/
def ColumnWidth.decode (v : Json) : Decoded ColumnWidth := do
  match ← asTagged "ColWidth" v with
  | ("ColWidthDefault", _) => .ok .default
  | ("ColWidth", c) => .share <$> asWidth (← contentOf "ColWidth" c)
  | (tag, _) => .error (.unknownTag "ColWidth" tag)

/-- A column: alignment and width. -/
def Column.decode (v : Json) : Decoded Column := do
  let (alignment, width) ← asPair "ColSpec" v
  let alignment ← Alignment.decode alignment
  let width ← ColumnWidth.decode width
  .ok ⟨alignment, width⟩

/-! ## Nodes -/

/-- The readers of the lists below a node. -/
structure NodeReaders where
  inlines : Json → Decoded (List Inline)
  blocks : Json → Decoded (List Block)

variable (r : NodeReaders)

/-- A citation. -/
def Citation.decode (v : Json) : Decoded (Citation Inline) := do
  let members ← asObject "Citation" v
  let id ← asString "citationId" (← member "citationId" members)
  let before ← r.inlines (← member "citationPrefix" members)
  let after ← r.inlines (← member "citationSuffix" members)
  let mode ← CitationMode.decode (← member "citationMode" members)
  let noteNumber ← asInteger "citationNoteNum" (← member "citationNoteNum" members)
  let hash ← asInteger "citationHash" (← member "citationHash" members)
  .ok ⟨id, before, after, mode, noteNumber, hash⟩

/-- The style of a tag. -/
def Style.ofTag? (tag : String) : Option Style :=
  [emph, underline, strong, strikeout, superscript, subscript, smallCaps].find? (·.tag == tag)

/-- An inline that is no plain wrapper, by its tag. -/
def Inline.decodeTagged (tag : String) (c : Option Json) : Decoded Inline :=
  match tag with
  | "Str" => do
    let text ← asString "Str content" (← contentOf tag c)
    .ok (.str text)
  | "Space" => .ok .space
  | "SoftBreak" => .ok .softBreak
  | "LineBreak" => .ok .lineBreak
  | "Quoted" => do
    let (kind, content) ← asPair tag (← contentOf tag c)
    let kind ← QuoteKind.decode kind
    let content ← r.inlines content
    .ok (.quoted kind content)
  | "Cite" => do
    let (citations, content) ← asPair tag (← contentOf tag c)
    let citations ← (← asArray "Citations" citations).mapM (Citation.decode r)
    let content ← r.inlines content
    .ok (.cite citations content)
  | "Code" => do
    let (attr, text) ← asPair tag (← contentOf tag c)
    let attr ← Attr.decode attr
    let text ← asString "Code text" text
    .ok (.code attr text)
  | "Math" => do
    let (kind, text) ← asPair tag (← contentOf tag c)
    let kind ← MathKind.decode kind
    let text ← asString "Math text" text
    .ok (.math kind text)
  | "RawInline" => do
    let (format, text) ← asPair tag (← contentOf tag c)
    let format ← asString "RawInline format" format
    let text ← asString "RawInline text" text
    .ok (.raw format text)
  | "Link" => do
    let (attr, content, target) ← asTriple tag (← contentOf tag c)
    let attr ← Attr.decode attr
    let content ← r.inlines content
    let target ← Target.decode target
    .ok (.link attr content target)
  | "Image" => do
    let (attr, description, target) ← asTriple tag (← contentOf tag c)
    let attr ← Attr.decode attr
    let description ← r.inlines description
    let target ← Target.decode target
    .ok (.image attr description target)
  | "Note" => do
    let content ← r.blocks (← contentOf tag c)
    .ok (.note content)
  | "Span" => do
    let (attr, content) ← asPair tag (← contentOf tag c)
    let attr ← Attr.decode attr
    let content ← r.inlines content
    .ok (.span attr content)
  | _ => .error (.unknownTag "Inline" tag)

/-- An inline. -/
def Inline.decode (v : Json) : Decoded Inline := do
  let (tag, c) ← asTagged "Inline" v
  match Style.ofTag? tag with
  | some style =>
    let content ← r.inlines (← contentOf tag c)
    .ok (.styled style content)
  | none => Inline.decodeTagged r tag c

/-- A list of list items. -/
def decodeItems (v : Json) : Decoded (List (List Block)) := do
  (← asArray "List items" v).mapM r.blocks

/-- A term with its definitions. -/
def Definition.decode (v : Json) : Decoded (Definition Inline Block) := do
  let (term, definitions) ← asPair "DefinitionList item" v
  let term ← r.inlines term
  let definitions ← decodeItems r definitions
  .ok ⟨term, definitions⟩

/-- The short part of a caption. -/
def decodeShort : Json → Decoded (Option (List Inline))
  | .null => .ok none
  | v => some <$> r.inlines v

/-- A caption: its long part is always there. -/
def Caption.decode (v : Json) : Decoded (Caption Inline Block) := do
  let (short, long) ← asPair "Caption" v
  let short ← decodeShort r short
  let long ← r.blocks long
  .ok ⟨short, some long⟩

/-- A cell. -/
def Cell.decode (v : Json) : Decoded (Cell Block) := do
  let (attr, alignment, rowSpan, colSpan, content) ← asQuintuple "Cell" v
  let attr ← Attr.decode attr
  let alignment ← Alignment.decode alignment
  let rowSpan ← asInteger "Cell row span" rowSpan
  let colSpan ← asInteger "Cell col span" colSpan
  let content ← r.blocks content
  .ok ⟨attr, alignment, rowSpan, colSpan, content⟩

/-- A row. -/
def Row.decode (v : Json) : Decoded (Row Block) := do
  let (attr, cells) ← asPair "Row" v
  let attr ← Attr.decode attr
  let cells ← (← asArray "Row cells" cells).mapM (Cell.decode r)
  .ok ⟨attr, cells⟩

/-- A list of rows. -/
def decodeRows (v : Json) : Decoded (List (Row Block)) := do
  (← asArray "Rows" v).mapM (Row.decode r)

/-- The head or the foot of a table, as `what` says. -/
def TableEnd.decode (what : String) (v : Json) : Decoded (TableEnd Block) := do
  let (attr, rows) ← asPair what v
  let attr ← Attr.decode attr
  let rows ← decodeRows r rows
  .ok ⟨attr, rows⟩

/-- A body of a table. -/
def TableBody.decode (v : Json) : Decoded (TableBody Block) := do
  let (attr, headColumns, head, rows) ← asQuadruple "TableBody" v
  let attr ← Attr.decode attr
  let headColumns ← asInteger "TableBody row head columns" headColumns
  let head ← decodeRows r head
  let rows ← decodeRows r rows
  .ok ⟨attr, headColumns, head, rows⟩

/-- A block, by its tag. -/
def Block.decodeTagged (tag : String) (c : Option Json) : Decoded Block :=
  match tag with
  | "Plain" => do
    let content ← r.inlines (← contentOf tag c)
    .ok (.plain content)
  | "Para" => do
    let content ← r.inlines (← contentOf tag c)
    .ok (.para content)
  | "LineBlock" => do
    let lines ← (← asArray "LineBlock content" (← contentOf tag c)).mapM r.inlines
    .ok (.lineBlock lines)
  | "CodeBlock" => do
    let (attr, text) ← asPair tag (← contentOf tag c)
    let attr ← Attr.decode attr
    let text ← asString "CodeBlock text" text
    .ok (.codeBlock attr text)
  | "RawBlock" => do
    let (format, text) ← asPair tag (← contentOf tag c)
    let format ← asString "RawBlock format" format
    let text ← asString "RawBlock text" text
    .ok (.raw format text)
  | "BlockQuote" => do
    let content ← r.blocks (← contentOf tag c)
    .ok (.blockQuote content)
  | "OrderedList" => do
    let (numbering, items) ← asPair tag (← contentOf tag c)
    let numbering ← Numbering.decode numbering
    let items ← decodeItems r items
    .ok (.orderedList numbering items)
  | "BulletList" => do
    let items ← decodeItems r (← contentOf tag c)
    .ok (.bulletList items)
  | "DefinitionList" => do
    let items ← asArray "DefinitionList content" (← contentOf tag c)
    let items ← items.mapM (Definition.decode r)
    .ok (.definitionList items)
  | "Header" => do
    let (level, attr, content) ← asTriple tag (← contentOf tag c)
    let level ← asUnsigned .headerLevel level
    let attr ← Attr.decode attr
    let content ← r.inlines content
    .ok (.header level attr content)
  | "HorizontalRule" => .ok .horizontalRule
  | "Table" => do
    let (attr, caption, columns, head, bodies, foot) ← asSextuple tag (← contentOf tag c)
    let attr ← Attr.decode attr
    let caption ← Caption.decode r caption
    let columns ← (← asArray "Table colspecs" columns).mapM Column.decode
    let head ← TableEnd.decode r "TableHead" head
    let bodies ← (← asArray "Table bodies" bodies).mapM (TableBody.decode r)
    let foot ← TableEnd.decode r "TableFoot" foot
    .ok (.table attr caption columns head bodies foot)
  | "Figure" => do
    let (attr, caption, content) ← asTriple tag (← contentOf tag c)
    let attr ← Attr.decode attr
    let caption ← Caption.decode r caption
    let content ← r.blocks content
    .ok (.figure attr caption content)
  | "Div" => do
    let (attr, content) ← asPair tag (← contentOf tag c)
    let attr ← Attr.decode attr
    let content ← r.blocks content
    .ok (.div attr content)
  | _ => .error (.unknownTag "Block" tag)

/-- A block. -/
def Block.decode (v : Json) : Decoded Block := do
  let (tag, c) ← asTagged "Block" v
  Block.decodeTagged r tag c

/-- The readers of lists that nest at most `depth` deep. -/
def nodeReaders : Nat → NodeReaders
  | 0 => ⟨fun _ => unmet (.array "Inlines"), fun _ => unmet (.array "Blocks")⟩
  | depth + 1 =>
    ⟨fun v => do (← asArray "Inlines" v).mapM (Inline.decode (nodeReaders depth)),
     fun v => do (← asArray "Blocks" v).mapM (Block.decode (nodeReaders depth))⟩

/-- A list of inlines. -/
def inlinesOfJson (v : Json) : Decoded (List Inline) := (nodeReaders v.depth).inlines v

/-- A list of blocks. -/
def blocksOfJson (v : Json) : Decoded (List Block) := (nodeReaders v.depth).blocks v

/-- An inline. -/
def inlineOfJson (v : Json) : Decoded Inline := Inline.decode (nodeReaders v.depth) v

/-- A block. -/
def blockOfJson (v : Json) : Decoded Block := Block.decode (nodeReaders v.depth) v

/-! ## Metadata and documents -/

/-- A metadata value, its entries read by `entry`. -/
def MetaValue.decode (entry : Json → Decoded MetaValue) (v : Json) : Decoded MetaValue := do
  let (tag, c) ← asTagged "MetaValue" v
  match tag with
  | "MetaString" => .string <$> asString "MetaString content" (← contentOf tag c)
  | "MetaBool" => .bool <$> asBool "MetaBool content" (← contentOf tag c)
  | "MetaInlines" => .inlines <$> inlinesOfJson (← contentOf tag c)
  | "MetaBlocks" => .blocks <$> blocksOfJson (← contentOf tag c)
  | "MetaList" =>
    let items ← asArray "MetaList content" (← contentOf tag c)
    .list <$> items.mapM entry
  | "MetaMap" =>
    let members ← asMap "MetaMap content" (← contentOf tag c)
    .map <$> members.mapM fun (k, v) => do
      let v ← entry v
      .ok (k, v)
  | _ => .error (.unknownTag "MetaValue" tag)

/-- The reader of metadata values that nest at most `depth` deep. -/
def metaReader : Nat → Json → Decoded MetaValue
  | 0, _ => unmet (.object "MetaValue")
  | depth + 1, v => MetaValue.decode (metaReader depth) v

/-- A metadata value. -/
def metaOfJson (v : Json) : Decoded MetaValue := metaReader v.depth v

/-- The entries of a metadata map, in ascending order of their keys. -/
def decodeMetadata (v : Json) : Decoded (List (String × MetaValue)) := do
  (← asMap "Meta" v).mapM fun (k, v) => do
    let v ← metaOfJson v
    .ok (k, v)

/-- The version a document names, or the default one. -/
def decodeVersion : Option Json → Decoded (List UInt64)
  | none => .ok Document.defaultVersion
  | some v => do (← asArray "pandoc-api-version" v).mapM (asUnsigned .versionNumbers)

/-- A document: version, metadata and blocks are read in this order. -/
def Document.ofJson (v : Json) : Decoded Document := do
  let members ← asObject "Pandoc" v
  let apiVersion ← decodeVersion (Json.find? "pandoc-api-version" members)
  let metadata ←
    match Json.find? "meta" members with
    | none => .ok []
    | some v => decodeMetadata v
  let blocks ← blocksOfJson (← member "blocks" members)
  .ok ⟨apiVersion, metadata, blocks⟩

end DeckFilter
