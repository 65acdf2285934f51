import DeckFilter.Double

/-!
# Documents

The tree that a document converter hands to its filters: blocks, the inlines in them, and metadata.
Parts that hold nodes without being nodes (captions, table cells, rows, citations) are structures
over the types of the nodes in them.

* `Attr`, `Target`, `Citation`, `Caption`, `Cell`, `Row`, `TableBody`, `TableEnd`: the parts;
* `Inline`, `Block`: the nodes, with `Inline.tag` and `Block.tag`;
* `MetaValue`, `Document`.
-/

namespace DeckFilter

/-- An identifier, classes and key/value pairs, all in the order they are written. -/
structure Attr where
  id : String
  classes : List String
  pairs : List (String × String)
  deriving DecidableEq, Repr

namespace Attr

/-- No identifier, no classes, no pairs. -/
def empty : Attr := ⟨"", [], []⟩

/-- Nothing is set. -/
def isEmpty (a : Attr) : Bool := a.id.isEmpty && a.classes.isEmpty && a.pairs.isEmpty

/-- Only the given classes. -/
def ofClasses (classes : List String) : Attr := ⟨"", classes, []⟩

/-- One of the classes is `name`. -/
def hasClass (a : Attr) (name : String) : Bool := a.classes.contains name

/-- The first key/value pair. -/
def firstPair (a : Attr) : Option (String × String) := a.pairs.head?

end Attr

/-! ## Small enumerations -/

/-- The plain wrappers of inlines. -/
inductive Style where
  | emph | underline | strong | strikeout | superscript | subscript | smallCaps
  deriving DecidableEq, Repr

/-- Single or double quotation marks. -/
inductive QuoteKind where
  | single | double
  deriving DecidableEq, Repr

/-- Formulas in the line or on their own. -/
inductive MathKind where
  | display | inline
  deriving DecidableEq, Repr

/-- How a citation names its author. -/
inductive CitationMode where
  | authorInText | suppressAuthor | normal
  deriving DecidableEq, Repr

/-- The numerals of an ordered list. -/
inductive NumberStyle where
  | default | numberedExample | decimal | lowerRoman | upperRoman | lowerAlpha | upperAlpha
  deriving DecidableEq, Repr

/-- What encloses the numerals of an ordered list. -/
inductive NumberDelim where
  | default | period | oneParen | twoParens
  deriving DecidableEq, Repr

/-- The alignment of a table column or cell. -/
inductive Alignment where
  | left | right | center | default
  deriving DecidableEq, Repr

/-- The width of a table column, as a share of the line if it is set. -/
inductive ColumnWidth where
  | default
  | share (width : Double)
  deriving DecidableEq, Repr

/-! ## Parts -/

/-- The address and the title of a link or an image. -/
structure Target where
  url : String
  title : String
  deriving DecidableEq, Repr

/-- The numbering of an ordered list. -/
structure Numbering where
  start : Int64
  style : NumberStyle
  delim : NumberDelim
  deriving DecidableEq, Repr

/-- A column of a table. -/
structure Column where
  alignment : Alignment
  width : ColumnWidth
  deriving DecidableEq, Repr

/-- A citation, with the text before and after it. -/
structure Citation (ι : Type) where
  id : String
  before : List ι
  after : List ι
  mode : CitationMode
  noteNumber : Int64
  hash : Int64

/-- The short and the long caption of a table or a figure. -/
structure Caption (ι β : Type) where
  short : Option (List ι)
  long : Option (List β)

/-- A table cell. -/
structure Cell (β : Type) where
  attr : Attr
  alignment : Alignment
  rowSpan : Int64
  colSpan : Int64
  content : List β

/-- A table row. -/
structure Row (β : Type) where
  attr : Attr
  cells : List (Cell β)

/-- The rows at the head or at the foot of a table. -/
structure TableEnd (β : Type) where
  attr : Attr
  rows : List (Row β)

/-- A body of a table: its own head rows, then the others. -/
structure TableBody (β : Type) where
  attr : Attr
  headColumns : Int64
  head : List (Row β)
  rows : List (Row β)

/-- A term and its definitions. -/
structure Definition (ι β : Type) where
  term : List ι
  definitions : List (List β)

/-! ## Nodes -/

mutual

/-- A node in a line of text. -/
inductive Inline where
  | str (text : String)
  | styled (style : Style) (content : List Inline)
  | quoted (kind : QuoteKind) (content : List Inline)
  | cite (citations : List (Citation Inline)) (content : List Inline)
  | code (attr : Attr) (text : String)
  | space
  | softBreak
  | lineBreak
  | math (kind : MathKind) (text : String)
  | raw (format : String) (text : String)
  | link (attr : Attr) (content : List Inline) (target : Target)
  | image (attr : Attr) (description : List Inline) (target : Target)
  | note (content : List Block)
  | span (attr : Attr) (content : List Inline)

/-- A node on its own lines. -/
inductive Block where
  | plain (content : List Inline)
  | para (content : List Inline)
  | lineBlock (lines : List (List Inline))
  | codeBlock (attr : Attr) (text : String)
  | raw (format : String) (text : String)
  | blockQuote (content : List Block)
  | orderedList (numbering : Numbering) (items : List (List Block))
  | bulletList (items : List (List Block))
  | definitionList (items : List (Definition Inline Block))
  | header (level : UInt64) (attr : Attr) (content : List Inline)
  | horizontalRule
  | table (attr : Attr) (caption : Caption Inline Block) (columns : List Column)
      (head : TableEnd Block) (bodies : List (TableBody Block)) (foot : TableEnd Block)
  | figure (attr : Attr) (caption : Caption Inline Block) (content : List Block)
  | div (attr : Attr) (content : List Block)

end

/-- The tag of a style. -/
def Style.tag : Style → String
  | emph => "Emph"
  | underline => "Underline"
  | strong => "Strong"
  | strikeout => "Strikeout"
  | superscript => "Superscript"
  | subscript => "Subscript"
  | smallCaps => "SmallCaps"

/-- The tag of an inline. -/
def Inline.tag : Inline → String
  | str _ => "Str"
  | styled style _ => style.tag
  | quoted _ _ => "Quoted"
  | cite _ _ => "Cite"
  | code _ _ => "Code"
  | space => "Space"
  | softBreak => "SoftBreak"
  | lineBreak => "LineBreak"
  | math _ _ => "Math"
  | raw _ _ => "RawInline"
  | link _ _ _ => "Link"
  | image _ _ _ => "Image"
  | note _ => "Note"
  | span _ _ => "Span"

/-- The tag of a block. -/
def Block.tag : Block → String
  | plain _ => "Plain"
  | para _ => "Para"
  | lineBlock _ => "LineBlock"
  | codeBlock _ _ => "CodeBlock"
  | raw _ _ => "RawBlock"
  | blockQuote _ => "BlockQuote"
  | orderedList _ _ => "OrderedList"
  | bulletList _ => "BulletList"
  | definitionList _ => "DefinitionList"
  | header _ _ _ => "Header"
  | horizontalRule => "HorizontalRule"
  | table _ _ _ _ _ _ => "Table"
  | figure _ _ _ => "Figure"
  | div _ _ => "Div"

/-! ## Documents -/

/-- A metadata value. -/
inductive MetaValue where
  | string (s : String)
  | bool (b : Bool)
  | inlines (content : List Inline)
  | blocks (content : List Block)
  | list (items : List MetaValue)
  | map (entries : List (String × MetaValue))

/-- A document: the version of the tree it is written in, its metadata and its blocks. -/
structure Document where
  apiVersion : List UInt64
  metadata : List (String × MetaValue)
  blocks : List Block

/-- The metadata value of an entry that says nothing. -/
def MetaValue.empty : MetaValue := map []

/-- A caption without a short and a long part. -/
def Caption.empty {ι β : Type} : Caption ι β := ⟨none, none⟩

namespace Document

/-- The version of a document that does not name one. -/
def defaultVersion : List UInt64 := [1, 23, 1]

/-- The empty document. -/
def empty : Document := ⟨defaultVersion, [], []⟩

end Document

end DeckFilter
