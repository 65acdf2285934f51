import DeckFilter.Document

/-!
# One level down

Every list of nodes directly below a node, taken in reading order and put back in place. Nothing
here recurses into nodes: what happens to the lists is the caller's.

* `Block.traverse`, `Inline.traverse`: the lists below a node;
* `MetaValue.traverse`, `Document.traverse`: the topmost lists of metadata and documents.
-/

namespace DeckFilter

variable {m : Type → Type} [Monad m] {ι β : Type}

/-- The text before the citation, then the text after it. -/
def Citation.traverse (inlines : List ι → m (List ι)) (c : Citation ι) : m (Citation ι) := do
  let before ← inlines c.before
  let after ← inlines c.after
  pure { c with before, after }

/-- The short caption, then the long one. -/
def Caption.traverse (inlines : List ι → m (List ι)) (blocks : List β → m (List β))
    (c : Caption ι β) : m (Caption ι β) := do
  let short ← c.short.mapM inlines
  let long ← c.long.mapM blocks
  pure ⟨short, long⟩

/-- The content of a cell. -/
def Cell.traverse (blocks : List β → m (List β)) (c : Cell β) : m (Cell β) := do
  let content ← blocks c.content
  pure { c with content }

/-- The cells of a row. -/
def Row.traverse (blocks : List β → m (List β)) (r : Row β) : m (Row β) := do
  let cells ← r.cells.mapM (Cell.traverse blocks)
  pure { r with cells }

/-- The rows at an end of a table. -/
def TableEnd.traverse (blocks : List β → m (List β)) (t : TableEnd β) : m (TableEnd β) := do
  let rows ← t.rows.mapM (Row.traverse blocks)
  pure { t with rows }

/-- The head rows of a body, then its other rows. -/
def TableBody.traverse (blocks : List β → m (List β)) (t : TableBody β) : m (TableBody β) := do
  let head ← t.head.mapM (Row.traverse blocks)
  let rows ← t.rows.mapM (Row.traverse blocks)
  pure { t with head, rows }

/-- The term, then its definitions. -/
def Definition.traverse (inlines : List ι → m (List ι)) (blocks : List β → m (List β))
    (d : Definition ι β) : m (Definition ι β) := do
  let term ← inlines d.term
  let definitions ← d.definitions.mapM blocks
  pure ⟨term, definitions⟩

/-- The lists below a block, in reading order. -/
def Block.traverse (inlines : List Inline → m (List Inline))
    (blocks : List Block → m (List Block)) : Block → m Block
  | plain content => plain <$> inlines content
  | para content => para <$> inlines content
  | lineBlock lines => lineBlock <$> lines.mapM inlines
  | codeBlock attr text => pure (codeBlock attr text)
  | raw format text => pure (raw format text)
  | blockQuote content => blockQuote <$> blocks content
  | orderedList numbering items => orderedList numbering <$> items.mapM blocks
  | bulletList items => bulletList <$> items.mapM blocks
  | definitionList items => definitionList <$> items.mapM (Definition.traverse inlines blocks)
  | header level attr content => header level attr <$> inlines content
  | horizontalRule => pure horizontalRule
  | table attr caption columns head bodies foot => do
    let caption ← caption.traverse inlines blocks
    let head ← head.traverse blocks
    let bodies ← bodies.mapM (TableBody.traverse blocks)
    let foot ← foot.traverse blocks
    pure (table attr caption columns head bodies foot)
  | figure attr caption content => do
    let caption ← caption.traverse inlines blocks
    let content ← blocks content
    pure (figure attr caption content)
  | div attr content => div attr <$> blocks content

/-- The lists below an inline, in reading order. -/
def Inline.traverse (inlines : List Inline → m (List Inline))
    (blocks : List Block → m (List Block)) : Inline → m Inline
  | str text => pure (str text)
  | styled style content => styled style <$> inlines content
  | quoted kind content => quoted kind <$> inlines content
  | cite citations content => do
    let citations ← citations.mapM (Citation.traverse inlines)
    let content ← inlines content
    pure (cite citations content)
  | code attr text => pure (code attr text)
  | space => pure space
  | softBreak => pure softBreak
  | lineBreak => pure lineBreak
  | math kind text => pure (math kind text)
  | raw format text => pure (raw format text)
  | link attr content target => (link attr · target) <$> inlines content
  | image attr description target => (image attr · target) <$> inlines description
  | note content => note <$> blocks content
  | span attr content => span attr <$> inlines content

mutual

/-- The topmost lists of a metadata value, in reading order. -/
def MetaValue.traverse (inlines : List Inline → m (List Inline))
    (blocks : List Block → m (List Block)) : MetaValue → m MetaValue
  | .string s => pure (.string s)
  | .bool b => pure (.bool b)
  | .inlines content => .inlines <$> inlines content
  | .blocks content => .blocks <$> blocks content
  | .list items => .list <$> traverseItems inlines blocks items
  | .map entries => .map <$> traverseEntries inlines blocks entries

/-- The topmost lists of metadata values. -/
def traverseItems (inlines : List Inline → m (List Inline)) (blocks : List Block → m (List Block)) :
    List MetaValue → m (List MetaValue)
  | [] => pure []
  | v :: rest => do
    let v ← v.traverse inlines blocks
    let rest ← traverseItems inlines blocks rest
    pure (v :: rest)

/-- The topmost lists of metadata entries. -/
def traverseEntries (inlines : List Inline → m (List Inline))
    (blocks : List Block → m (List Block)) :
    List (String × MetaValue) → m (List (String × MetaValue))
  | [] => pure []
  | (k, v) :: rest => do
    let v ← v.traverse inlines blocks
    let rest ← traverseEntries inlines blocks rest
    pure ((k, v) :: rest)

end

/-- The topmost lists of a document: metadata before blocks. -/
def Document.traverse (inlines : List Inline → m (List Inline))
    (blocks : List Block → m (List Block)) (d : Document) : m Document := do
  let metadata ← traverseEntries inlines blocks d.metadata
  let blocks ← blocks d.blocks
  pure { d with metadata, blocks }

end DeckFilter
