import DeckFilter.Document

/-!
# How deep nodes nest

The height of a list of nodes is zero if it is empty, and else one more than the height of the
highest list below one of its nodes. Recursion that goes down one list at a time needs no more
steps than that.

* `Inline.height`, `inlinesHeight`, `Block.height`, `blocksHeight`, `Document.height`.
-/

namespace DeckFilter

mutual

/-- The height of the highest list below an inline. -/
def Inline.height : Inline → Nat
  | .styled _ content => inlinesHeight content
  | .quoted _ content => inlinesHeight content
  | .cite citations content => max (citationsHeight citations) (inlinesHeight content)
  | .link _ content _ => inlinesHeight content
  | .image _ description _ => inlinesHeight description
  | .note content => blocksHeight content
  | .span _ content => inlinesHeight content
  | _ => 0

/-- The height of a list of inlines. -/
def inlinesHeight : List Inline → Nat
  | [] => 0
  | x :: xs => max (x.height + 1) (inlinesHeight xs)

/-- The height of the highest list in some citations. -/
def citationsHeight : List (Citation Inline) → Nat
  | [] => 0
  | ⟨_, before, after, _, _, _⟩ :: rest =>
    max (max (inlinesHeight before) (inlinesHeight after)) (citationsHeight rest)

/-- The height of the highest list below a block. -/
def Block.height : Block → Nat
  | .plain content => inlinesHeight content
  | .para content => inlinesHeight content
  | .lineBlock lines => linesHeight lines
  | .blockQuote content => blocksHeight content
  | .orderedList _ items => itemsHeight items
  | .bulletList items => itemsHeight items
  | .definitionList items => definitionsHeight items
  | .header _ _ content => inlinesHeight content
  | .table _ caption _ head bodies foot =>
    max (max (captionHeight caption) (tableEndHeight head))
      (max (tableBodiesHeight bodies) (tableEndHeight foot))
  | .figure _ caption content => max (captionHeight caption) (blocksHeight content)
  | .div _ content => blocksHeight content
  | _ => 0

/-- The height of a list of blocks. -/
def blocksHeight : List Block → Nat
  | [] => 0
  | x :: xs => max (x.height + 1) (blocksHeight xs)

/-- The height of the highest of some lines. -/
def linesHeight : List (List Inline) → Nat
  | [] => 0
  | x :: xs => max (inlinesHeight x) (linesHeight xs)

/-- The height of the highest of some list items. -/
def itemsHeight : List (List Block) → Nat
  | [] => 0
  | x :: xs => max (blocksHeight x) (itemsHeight xs)

/-- The height of the highest list in some definitions. -/
def definitionsHeight : List (Definition Inline Block) → Nat
  | [] => 0
  | ⟨term, definitions⟩ :: rest =>
    max (max (inlinesHeight term) (itemsHeight definitions)) (definitionsHeight rest)

/-- The height of the higher part of a caption. -/
def captionHeight : Caption Inline Block → Nat
  | ⟨short, long⟩ => max (shortHeight short) (longHeight long)

/-- The height of a short caption. -/
def shortHeight : Option (List Inline) → Nat
  | none => 0
  | some content => inlinesHeight content

/-- The height of a long caption. -/
def longHeight : Option (List Block) → Nat
  | none => 0
  | some content => blocksHeight content

/-- The height of the highest cell at an end of a table. -/
def tableEndHeight : TableEnd Block → Nat
  | ⟨_, rows⟩ => rowsHeight rows

/-- The height of the highest cell in some table bodies. -/
def tableBodiesHeight : List (TableBody Block) → Nat
  | [] => 0
  | ⟨_, _, head, rows⟩ :: rest =>
    max (max (rowsHeight head) (rowsHeight rows)) (tableBodiesHeight rest)

/-- The height of the highest cell in some rows. -/
def rowsHeight : List (Row Block) → Nat
  | [] => 0
  | ⟨_, cells⟩ :: rest => max (cellsHeight cells) (rowsHeight rest)

/-- The height of the highest of some cells. -/
def cellsHeight : List (Cell Block) → Nat
  | [] => 0
  | ⟨_, _, _, _, content⟩ :: rest => max (blocksHeight content) (cellsHeight rest)

end

mutual

/-- The height of the highest list in a metadata value. -/
def MetaValue.height : MetaValue → Nat
  | .inlines content => inlinesHeight content
  | .blocks content => blocksHeight content
  | .list items => metaItemsHeight items
  | .map entries => metaEntriesHeight entries
  | _ => 0

/-- The height of the highest of some metadata values. -/
def metaItemsHeight : List MetaValue → Nat
  | [] => 0
  | v :: rest => max v.height (metaItemsHeight rest)

/-- The height of the highest of some metadata entries. -/
def metaEntriesHeight : List (String × MetaValue) → Nat
  | [] => 0
  | (_, v) :: rest => max v.height (metaEntriesHeight rest)

end

/-- The height of the highest list in a document. -/
def Document.height (d : Document) : Nat :=
  max (metaEntriesHeight d.metadata) (blocksHeight d.blocks)

end DeckFilter
