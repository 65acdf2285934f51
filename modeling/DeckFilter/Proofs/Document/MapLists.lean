import DeckFilter.Proofs.Document.Nodes

/-!
# Nodes with other lists in them

A node can have every list below it changed, each on its own, and nothing else.

* `Inline.mapLists`, `Block.mapLists`, `MetaValue.mapLists`, `Document.mapLists`: the changes, with
  `Node.mapLists` and `NodeList.map`;
* `Node.lists_mapLists`: the lists below the changed node are the changed lists;
* `Node.mapLists_congr`, `Node.mapLists_mapLists`, `Node.mapLists_id`: a change is determined by
  what it does to these lists, two changes in a row are one, and no change is none; so it is for
  documents.
-/

namespace DeckFilter

/-! ## Parts -/

section Parts

variable {ι β : Type} (f : List ι → List ι) (g : List β → List β)

/-- A citation with the text around it changed. -/
def Citation.mapLists (c : Citation ι) : Citation ι :=
  { c with before := f c.before, after := f c.after }

/-- A caption with both parts changed. -/
def Caption.mapLists (c : Caption ι β) : Caption ι β := ⟨c.short.map f, c.long.map g⟩

/-- A cell with its content changed. -/
def Cell.mapLists (c : Cell β) : Cell β := { c with content := g c.content }

/-- A row with its cells changed. -/
def Row.mapLists (r : Row β) : Row β := { r with cells := r.cells.map (Cell.mapLists g) }

/-- An end of a table with its rows changed. -/
def TableEnd.mapLists (t : TableEnd β) : TableEnd β :=
  { t with rows := t.rows.map (Row.mapLists g) }

/-- A body of a table with its rows changed. -/
def TableBody.mapLists (t : TableBody β) : TableBody β :=
  { t with head := t.head.map (Row.mapLists g), rows := t.rows.map (Row.mapLists g) }

/-- A definition with its term and its definitions changed. -/
def Definition.mapLists (d : Definition ι β) : Definition ι β := ⟨f d.term, d.definitions.map g⟩

end Parts

/-! ## Nodes and documents -/

section Nodes

variable (f : List Inline → List Inline) (g : List Block → List Block)

/-- An inline with the lists below it changed. -/
def Inline.mapLists : Inline → Inline
  | styled style content => styled style (f content)
  | quoted kind content => quoted kind (f content)
  | cite citations content => cite (citations.map (Citation.mapLists f)) (f content)
  | link attr content target => link attr (f content) target
  | image attr description target => image attr (f description) target
  | note content => note (g content)
  | span attr content => span attr (f content)
  | x => x

/-- A block with the lists below it changed. -/
def Block.mapLists : Block → Block
  | plain content => plain (f content)
  | para content => para (f content)
  | lineBlock lines => lineBlock (lines.map f)
  | blockQuote content => blockQuote (g content)
  | orderedList numbering items => orderedList numbering (items.map g)
  | bulletList items => bulletList (items.map g)
  | definitionList items => definitionList (items.map (Definition.mapLists f g))
  | header level attr content => header level attr (f content)
  | table attr caption columns head bodies foot =>
    table attr (caption.mapLists f g) columns (head.mapLists g) (bodies.map (TableBody.mapLists g))
      (foot.mapLists g)
  | figure attr caption content => figure attr (caption.mapLists f g) (g content)
  | div attr content => div attr (g content)
  | x => x

/-- A node with the lists below it changed. -/
def Node.mapLists : Node → Node
  | inline x => inline (x.mapLists f g)
  | block x => block (x.mapLists f g)

/-- A list changed by the function for its kind. -/
def NodeList.map : NodeList → NodeList
  | inlines content => inlines (f content)
  | blocks content => blocks (g content)

mutual

/-- A metadata value with its topmost lists changed. -/
def MetaValue.mapLists : MetaValue → MetaValue
  | .inlines content => .inlines (f content)
  | .blocks content => .blocks (g content)
  | .list items => .list (mapItemLists items)
  | .map entries => .map (mapEntryLists entries)
  | v => v

/-- Metadata values with their topmost lists changed. -/
def mapItemLists : List MetaValue → List MetaValue
  | [] => []
  | v :: rest => v.mapLists :: mapItemLists rest

/-- Metadata entries with their topmost lists changed. -/
def mapEntryLists : List (String × MetaValue) → List (String × MetaValue)
  | [] => []
  | (k, v) :: rest => (k, v.mapLists) :: mapEntryLists rest

end

/-- A document with its topmost lists changed. -/
def Document.mapLists (d : Document) : Document :=
  { d with metadata := mapEntryLists f g d.metadata, blocks := g d.blocks }

theorem mapItemLists_eq (items : List MetaValue) :
    mapItemLists f g items = items.map (MetaValue.mapLists f g) := by
  induction items with
  | nil => rfl
  | cons v rest ih => rw [mapItemLists, ih, List.map_cons]

theorem mapEntryLists_eq (entries : List (String × MetaValue)) :
    mapEntryLists f g entries = entries.map fun e => (e.1, e.2.mapLists f g) := by
  induction entries with
  | nil => rfl
  | cons e rest ih => rw [mapEntryLists, ih, List.map_cons]

end Nodes

/-! ## The changed lists -/

section Changed

variable (f : List Inline → List Inline) (g : List Block → List Block)

theorem Citation.lists_mapLists (c : Citation Inline) :
    (c.mapLists f).lists = c.lists.map (NodeList.map f g) := rfl

theorem Caption.lists_mapLists (c : Caption Inline Block) :
    (c.mapLists f g).lists = c.lists.map (NodeList.map f g) := by
  obtain ⟨short, long⟩ := c
  cases short <;> cases long <;> rfl

theorem Row.lists_mapLists (r : Row Block) :
    (r.mapLists g).lists = r.lists.map (NodeList.map f g) := by
  simp [lists, mapLists, Cell.mapLists, NodeList.map, Function.comp_def]

theorem TableEnd.lists_mapLists (t : TableEnd Block) :
    (t.mapLists g).lists = t.lists.map (NodeList.map f g) := by
  simp [lists, mapLists, List.flatMap_map, List.map_flatMap, Row.lists_mapLists f g]

theorem TableBody.lists_mapLists (t : TableBody Block) :
    (t.mapLists g).lists = t.lists.map (NodeList.map f g) := by
  simp [lists, mapLists, List.flatMap_map, List.map_flatMap, Row.lists_mapLists f g]

theorem Definition.lists_mapLists (d : Definition Inline Block) :
    (d.mapLists f g).lists = d.lists.map (NodeList.map f g) := by
  simp [lists, mapLists, NodeList.map, Function.comp_def]

theorem Inline.lists_mapLists (x : Inline) :
    (x.mapLists f g).lists = x.lists.map (NodeList.map f g) := by
  cases x with
  | cite citations content =>
    simp [lists, mapLists, List.flatMap_map, List.map_flatMap, Citation.lists_mapLists f g,
      NodeList.map]
  | _ => rfl

theorem Block.lists_mapLists (x : Block) :
    (x.mapLists f g).lists = x.lists.map (NodeList.map f g) := by
  cases x with
  | lineBlock | orderedList | bulletList =>
    simp [lists, mapLists, NodeList.map, Function.comp_def]
  | definitionList items =>
    simp [lists, mapLists, List.flatMap_map, List.map_flatMap, Definition.lists_mapLists]
  | table attr caption columns head bodies foot =>
    simp [lists, mapLists, List.flatMap_map, List.map_flatMap, Caption.lists_mapLists,
      TableEnd.lists_mapLists f g, TableBody.lists_mapLists f g]
  | figure attr caption content =>
    simp [lists, mapLists, Caption.lists_mapLists, NodeList.map]
  | _ => rfl

/-- **The lists below a changed node are the changed lists.** -/
theorem Node.lists_mapLists (x : Node) :
    (x.mapLists f g).lists = x.lists.map (NodeList.map f g) := by
  cases x with
  | inline x => exact x.lists_mapLists f g
  | block x => exact x.lists_mapLists f g

theorem Inline.tag_mapLists (x : Inline) : (x.mapLists f g).tag = x.tag := by
  cases x <;> rfl

theorem Block.tag_mapLists (x : Block) : (x.mapLists f g).tag = x.tag := by
  cases x <;> rfl

theorem MetaValue.lists_mapLists (v : MetaValue) :
    (v.mapLists f g).lists = v.lists.map (NodeList.map f g) := by
  induction v using MetaValue.induction with
  | string | bool | inlines | blocks => rfl
  | list items ih =>
    rw [mapLists, mapItemLists_eq, lists, lists, metaItemsLists_eq, metaItemsLists_eq,
      List.flatMap_map, List.map_flatMap]
    exact List.flatMap_congr ih
  | map entries ih =>
    rw [mapLists, mapEntryLists_eq, lists, lists, metaEntriesLists_eq, metaEntriesLists_eq,
      List.flatMap_map, List.map_flatMap]
    exact List.flatMap_congr ih

/-- **The topmost lists of a changed document are the changed lists.** -/
theorem Document.lists_mapLists (d : Document) :
    (d.mapLists f g).lists = d.lists.map (NodeList.map f g) := by
  have hmetadata := (MetaValue.map d.metadata).lists_mapLists f g
  rw [lists, lists, List.map_append]
  exact congrArg (· ++ [.blocks (g d.blocks)]) hmetadata

end Changed

/-! ## Changes that agree -/

section Congr

variable {f f' : List Inline → List Inline} {g g' : List Block → List Block}

theorem NodeList.map_blocks_inj {xs : List Block}
    (h : (blocks xs).map f g = (blocks xs).map f' g') : g xs = g' xs := blocks.inj h

theorem NodeList.map_inlines_inj {xs : List Inline}
    (h : (inlines xs).map f g = (inlines xs).map f' g') : f xs = f' xs := inlines.inj h

theorem Citation.mapLists_congr {c : Citation Inline}
    (h : ∀ l ∈ c.lists, l.map f g = l.map f' g') : c.mapLists f = c.mapLists f' := by
  have hbefore := NodeList.map_inlines_inj (h (.inlines c.before) (by simp [lists]))
  have hafter := NodeList.map_inlines_inj (h (.inlines c.after) (by simp [lists]))
  rw [mapLists, mapLists, hbefore, hafter]

theorem Caption.mapLists_congr {c : Caption Inline Block}
    (h : ∀ l ∈ c.lists, l.map f g = l.map f' g') : c.mapLists f g = c.mapLists f' g' := by
  have hshort : c.short.map f = c.short.map f' := Option.map_congr fun xs hxs =>
    NodeList.map_inlines_inj (h (.inlines xs) (by simp [lists, hxs]))
  have hlong : c.long.map g = c.long.map g' := Option.map_congr fun xs hxs =>
    NodeList.map_blocks_inj (h (.blocks xs) (by simp [lists, hxs]))
  rw [mapLists, mapLists, hshort, hlong]

theorem Row.mapLists_congr {r : Row Block} (h : ∀ l ∈ r.lists, l.map f g = l.map f' g') :
    r.mapLists g = r.mapLists g' := by
  have hcells : r.cells.map (Cell.mapLists g) = r.cells.map (Cell.mapLists g') :=
    List.map_congr_left fun c hc => by
      rw [Cell.mapLists, Cell.mapLists, NodeList.map_blocks_inj (h _ (List.mem_map_of_mem hc))]
  rw [mapLists, mapLists, hcells]

theorem mapRows_congr {rows : List (Row Block)}
    (h : ∀ l ∈ rows.flatMap Row.lists, l.map f g = l.map f' g') :
    rows.map (Row.mapLists g) = rows.map (Row.mapLists g') :=
  List.map_congr_left fun r hr =>
    Row.mapLists_congr fun l hl => h l (List.mem_flatMap.mpr ⟨r, hr, hl⟩)

theorem TableEnd.mapLists_congr {t : TableEnd Block}
    (h : ∀ l ∈ t.lists, l.map f g = l.map f' g') : t.mapLists g = t.mapLists g' := by
  rw [mapLists, mapLists, mapRows_congr h]

theorem TableBody.mapLists_congr {t : TableBody Block}
    (h : ∀ l ∈ t.lists, l.map f g = l.map f' g') : t.mapLists g = t.mapLists g' := by
  rw [mapLists, mapLists, mapRows_congr fun l hl => h l (List.mem_append_left _ hl),
    mapRows_congr fun l hl => h l (List.mem_append_right _ hl)]

theorem mapItems_congr {items : List (List Block)}
    (h : ∀ l ∈ items.map NodeList.blocks, l.map f g = l.map f' g') : items.map g = items.map g' :=
  List.map_congr_left fun _ hx => NodeList.map_blocks_inj (h _ (List.mem_map_of_mem hx))

theorem Definition.mapLists_congr {d : Definition Inline Block}
    (h : ∀ l ∈ d.lists, l.map f g = l.map f' g') : d.mapLists f g = d.mapLists f' g' := by
  obtain ⟨hterm, hdefinitions⟩ := List.forall_mem_cons.mp h
  rw [mapLists, mapLists, NodeList.map_inlines_inj hterm, mapItems_congr hdefinitions]

theorem Inline.mapLists_congr {x : Inline} (h : ∀ l ∈ x.lists, l.map f g = l.map f' g') :
    x.mapLists f g = x.mapLists f' g' := by
  cases x with
  | str | code | space | softBreak | lineBreak | math | raw => rfl
  | styled style content | quoted kind content | link attr content target
  | image attr content target | span attr content =>
    rw [mapLists, mapLists, NodeList.map_inlines_inj (h _ List.mem_cons_self)]
  | note content => rw [mapLists, mapLists, NodeList.map_blocks_inj (h _ List.mem_cons_self)]
  | cite citations content =>
    obtain ⟨hcitations, hcontent⟩ := List.forall_mem_append.mp h
    have : citations.map (Citation.mapLists f) = citations.map (Citation.mapLists f') :=
      List.map_congr_left fun c hc => Citation.mapLists_congr fun l hl =>
        hcitations l (List.mem_flatMap.mpr ⟨c, hc, hl⟩)
    rw [mapLists, mapLists, this, NodeList.map_inlines_inj (hcontent _ List.mem_cons_self)]

theorem Block.mapLists_congr {x : Block} (h : ∀ l ∈ x.lists, l.map f g = l.map f' g') :
    x.mapLists f g = x.mapLists f' g' := by
  cases x with
  | codeBlock | raw | horizontalRule => rfl
  | plain content | para content | header level attr content =>
    rw [mapLists, mapLists, NodeList.map_inlines_inj (h _ List.mem_cons_self)]
  | blockQuote content | div attr content =>
    rw [mapLists, mapLists, NodeList.map_blocks_inj (h _ List.mem_cons_self)]
  | lineBlock lines =>
    have : lines.map f = lines.map f' := List.map_congr_left fun _ hx =>
      NodeList.map_inlines_inj (h _ (List.mem_map_of_mem hx))
    rw [mapLists, mapLists, this]
  | orderedList numbering items | bulletList items =>
    rw [mapLists, mapLists, mapItems_congr h]
  | definitionList items =>
    have : items.map (Definition.mapLists f g) = items.map (Definition.mapLists f' g') :=
      List.map_congr_left fun d hd => Definition.mapLists_congr fun l hl =>
        h l (List.mem_flatMap.mpr ⟨d, hd, hl⟩)
    rw [mapLists, mapLists, this]
  | table attr caption columns head bodies foot =>
    simp only [lists, List.forall_mem_append] at h
    obtain ⟨⟨⟨hcaption, hhead⟩, hbodies⟩, hfoot⟩ := h
    have : bodies.map (TableBody.mapLists g) = bodies.map (TableBody.mapLists g') :=
      List.map_congr_left fun t ht => TableBody.mapLists_congr fun l hl =>
        hbodies l (List.mem_flatMap.mpr ⟨t, ht, hl⟩)
    rw [mapLists, mapLists, Caption.mapLists_congr hcaption, TableEnd.mapLists_congr hhead, this,
      TableEnd.mapLists_congr hfoot]
  | figure attr caption content =>
    obtain ⟨hcaption, hcontent⟩ := List.forall_mem_append.mp h
    rw [mapLists, mapLists, Caption.mapLists_congr hcaption,
      NodeList.map_blocks_inj (hcontent _ List.mem_cons_self)]

/-- **Two changes of a node agree if they agree on the lists below it.** -/
theorem Node.mapLists_congr {x : Node} (h : ∀ l ∈ x.lists, l.map f g = l.map f' g') :
    x.mapLists f g = x.mapLists f' g' := by
  cases x with
  | inline x => exact congrArg inline (Inline.mapLists_congr h)
  | block x => exact congrArg block (Block.mapLists_congr h)

theorem MetaValue.mapLists_congr {v : MetaValue} (h : ∀ l ∈ v.lists, l.map f g = l.map f' g') :
    v.mapLists f g = v.mapLists f' g' := by
  induction v using MetaValue.induction with
  | string | bool => rfl
  | inlines content =>
    exact congrArg MetaValue.inlines (NodeList.map_inlines_inj (h _ List.mem_cons_self))
  | blocks content =>
    exact congrArg MetaValue.blocks (NodeList.map_blocks_inj (h _ List.mem_cons_self))
  | list items ih =>
    rw [lists, metaItemsLists_eq, List.forall_mem_flatMap] at h
    rw [mapLists, mapLists, mapItemLists_eq, mapItemLists_eq]
    exact congrArg MetaValue.list (List.map_congr_left fun v hv => ih v hv (h v hv))
  | map entries ih =>
    rw [lists, metaEntriesLists_eq, List.forall_mem_flatMap] at h
    rw [mapLists, mapLists, mapEntryLists_eq, mapEntryLists_eq]
    refine congrArg MetaValue.map (List.map_congr_left fun e he => ?_)
    rw [ih e he (h e he)]

/-- **Two changes of a document agree if they agree on its topmost lists.** -/
theorem Document.mapLists_congr {d : Document} (h : ∀ l ∈ d.lists, l.map f g = l.map f' g') :
    d.mapLists f g = d.mapLists f' g' := by
  obtain ⟨hmetadata, hblocks⟩ := List.forall_mem_append.mp h
  have hentries := MetaValue.map.inj
    (MetaValue.mapLists_congr (v := .map d.metadata) hmetadata)
  rw [mapLists, mapLists, hentries, NodeList.map_blocks_inj (hblocks _ List.mem_cons_self)]

end Congr

/-! ## Changes in a row -/

section Compose

variable (f f' : List Inline → List Inline) (g g' : List Block → List Block)

theorem Caption.mapLists_mapLists (c : Caption Inline Block) :
    (c.mapLists f g).mapLists f' g' = c.mapLists (f' ∘ f) (g' ∘ g) := by
  simp [mapLists]

theorem Row.mapLists_comp : Row.mapLists g' ∘ Row.mapLists g = Row.mapLists (g' ∘ g) := by
  funext r
  simp [mapLists, Cell.mapLists, Function.comp_def]

theorem TableEnd.mapLists_mapLists (t : TableEnd Block) :
    (t.mapLists g).mapLists g' = t.mapLists (g' ∘ g) := by
  simp [mapLists, Row.mapLists_comp]

theorem TableBody.mapLists_comp :
    TableBody.mapLists g' ∘ TableBody.mapLists g = TableBody.mapLists (g' ∘ g) := by
  funext t
  simp [mapLists, Row.mapLists_comp]

theorem Definition.mapLists_comp :
    Definition.mapLists f' g' ∘ Definition.mapLists f g =
      Definition.mapLists (f' ∘ f) (g' ∘ g) := by
  funext d
  simp [mapLists]

theorem Inline.mapLists_mapLists (x : Inline) :
    (x.mapLists f g).mapLists f' g' = x.mapLists (f' ∘ f) (g' ∘ g) := by
  cases x <;> simp [mapLists, Citation.mapLists, Function.comp_def]

theorem Block.mapLists_mapLists (x : Block) :
    (x.mapLists f g).mapLists f' g' = x.mapLists (f' ∘ f) (g' ∘ g) := by
  cases x <;> simp [mapLists, Definition.mapLists_comp, Caption.mapLists_mapLists,
    TableEnd.mapLists_mapLists, TableBody.mapLists_comp]

/-- **Two changes in a row are one.** -/
theorem Node.mapLists_mapLists (x : Node) :
    (x.mapLists f g).mapLists f' g' = x.mapLists (f' ∘ f) (g' ∘ g) := by
  cases x with
  | inline x => exact congrArg inline (x.mapLists_mapLists f f' g g')
  | block x => exact congrArg block (x.mapLists_mapLists f f' g g')

theorem MetaValue.mapLists_mapLists (v : MetaValue) :
    (v.mapLists f g).mapLists f' g' = v.mapLists (f' ∘ f) (g' ∘ g) := by
  induction v using MetaValue.induction with
  | string | bool | inlines | blocks => rfl
  | list items ih =>
    simp only [mapLists, mapItemLists_eq, List.map_map]
    exact congrArg MetaValue.list (List.map_congr_left ih)
  | map entries ih =>
    simp only [mapLists, mapEntryLists_eq, List.map_map]
    refine congrArg MetaValue.map (List.map_congr_left fun e he => ?_)
    rw [Function.comp_apply, ih e he]

/-- **Two changes of a document in a row are one.** -/
theorem Document.mapLists_mapLists (d : Document) :
    (d.mapLists f g).mapLists f' g' = d.mapLists (f' ∘ f) (g' ∘ g) := by
  have hentries := MetaValue.map.inj ((MetaValue.map d.metadata).mapLists_mapLists f f' g g')
  rw [mapLists, mapLists, mapLists, hentries]
  rfl

end Compose

/-! ## Changes that change nothing -/

section Identity

variable {ι β : Type}

theorem Row.mapLists_id : Row.mapLists (id : List β → List β) = id := by
  funext r
  have hcells : Cell.mapLists (id : List β → List β) = id := rfl
  simp [mapLists, hcells]

theorem TableEnd.mapLists_id (t : TableEnd β) : t.mapLists id = t := by
  simp [mapLists, Row.mapLists_id]

theorem TableBody.mapLists_id : TableBody.mapLists (id : List β → List β) = id := by
  funext t
  simp [mapLists, Row.mapLists_id]

theorem Caption.mapLists_id (c : Caption ι β) : c.mapLists id id = c := by
  simp [mapLists]

theorem Definition.mapLists_id :
    Definition.mapLists (id : List ι → List ι) (id : List β → List β) = id := by
  funext d
  simp [mapLists]

theorem Inline.mapLists_id (x : Inline) : x.mapLists id id = x := by
  have hcitation : Citation.mapLists (id : List Inline → List Inline) = id := rfl
  cases x <;> simp [mapLists, hcitation]

theorem Block.mapLists_id (x : Block) : x.mapLists id id = x := by
  cases x <;> simp [mapLists, Definition.mapLists_id, Caption.mapLists_id, TableEnd.mapLists_id,
    TableBody.mapLists_id]

/-- **A node stays as it is if every list below it does.** -/
theorem Node.mapLists_id (x : Node) : x.mapLists id id = x := by
  cases x with
  | inline x => exact congrArg inline x.mapLists_id
  | block x => exact congrArg block x.mapLists_id

theorem NodeList.map_id (l : NodeList) : l.map id id = l := by
  cases l <;> rfl

theorem MetaValue.mapLists_id (v : MetaValue) : v.mapLists id id = v := by
  induction v using MetaValue.induction with
  | string | bool | inlines | blocks => rfl
  | list items ih =>
    rw [mapLists, mapItemLists_eq]
    exact congrArg MetaValue.list ((List.map_congr_left ih).trans (List.map_id items))
  | map entries ih =>
    rw [mapLists, mapEntryLists_eq]
    refine congrArg MetaValue.map ((List.map_congr_left fun e he => ?_).trans (List.map_id entries))
    exact congrArg (Prod.mk e.1) (ih e he)

/-- **A document stays as it is if its topmost lists do.** -/
theorem Document.mapLists_id (d : Document) : d.mapLists id id = d := by
  have hentries := MetaValue.map.inj (MetaValue.mapLists_id (.map d.metadata))
  rw [mapLists, hentries]
  rfl

end Identity

end DeckFilter
