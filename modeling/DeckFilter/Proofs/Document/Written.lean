import DeckFilter.Document.Encode
import DeckFilter.Proofs.Document.Nodes
import DeckFilter.Proofs.Json.WellFormed

/-!
# Documents as they are written

A list is written item by item, and a list of nodes is written as an array that nests less deep than
the node it is below.

* `Citation.toJson`, … `Cell.toJson`, `NodeList.toJson`: the parts one by one;
* `inlinesToJson_eq`, … `cellsToJson_eq`: lists are written item by item;
* `Node.depth_lists`: every list below a node is written less deep than the node.
-/

namespace DeckFilter

open Json (object array string number)

/-! ## The parts one by one -/

/-- A citation. -/
def Citation.toJson (c : Citation Inline) : Json :=
  object [("citationHash", integerToJson c.hash), ("citationId", string c.id),
    ("citationMode", bare c.mode.tag), ("citationNoteNum", integerToJson c.noteNumber),
    ("citationPrefix", array (c.before.map Inline.toJson)),
    ("citationSuffix", array (c.after.map Inline.toJson))]

/-- A list item. -/
def itemToJson (item : List Block) : Json := array (item.map Block.toJson)

/-- A term with its definitions. -/
def Definition.toJson (d : Definition Inline Block) : Json :=
  array [array (d.term.map Inline.toJson), array (d.definitions.map itemToJson)]

/-- A cell. -/
def Cell.toJson (c : Cell Block) : Json :=
  array [c.attr.toJson, bare c.alignment.tag, integerToJson c.rowSpan, integerToJson c.colSpan,
    array (c.content.map Block.toJson)]

/-- A row. -/
def Row.toJson (r : Row Block) : Json := array [r.attr.toJson, array (r.cells.map Cell.toJson)]

/-- A body of a table. -/
def TableBody.toJson (t : TableBody Block) : Json :=
  array [t.attr.toJson, integerToJson t.headColumns, array (t.head.map Row.toJson),
    array (t.rows.map Row.toJson)]

/-- A list of nodes. -/
def NodeList.toJson : NodeList → Json
  | inlines content => array (content.map Inline.toJson)
  | blocks content => array (content.map Block.toJson)

/-- A node. -/
def Node.toJson : Node → Json
  | inline x => x.toJson
  | block x => x.toJson

/-! ## Lists item by item -/

@[simp] theorem inlinesToJson_eq : ∀ xs : List Inline, inlinesToJson xs = xs.map Inline.toJson
  | [] => rfl
  | x :: xs => by rw [inlinesToJson, inlinesToJson_eq xs, List.map_cons]

@[simp] theorem blocksToJson_eq : ∀ xs : List Block, blocksToJson xs = xs.map Block.toJson
  | [] => rfl
  | x :: xs => by rw [blocksToJson, blocksToJson_eq xs, List.map_cons]

@[simp] theorem citationsToJson_eq :
    ∀ cs : List (Citation Inline), citationsToJson cs = cs.map Citation.toJson
  | [] => rfl
  | c :: cs => by
    rw [citationsToJson, citationsToJson_eq cs, List.map_cons, Citation.toJson, inlinesToJson_eq,
      inlinesToJson_eq]

@[simp] theorem linesToJson_eq :
    ∀ xs : List (List Inline), linesToJson xs = xs.map fun x => array (x.map Inline.toJson)
  | [] => rfl
  | x :: xs => by rw [linesToJson, linesToJson_eq xs, List.map_cons, inlinesToJson_eq]

@[simp] theorem itemsToJson_eq : ∀ xs : List (List Block), itemsToJson xs = xs.map itemToJson
  | [] => rfl
  | x :: xs => by rw [itemsToJson, itemsToJson_eq xs, List.map_cons, blocksToJson_eq, itemToJson]

@[simp] theorem definitionsToJson_eq :
    ∀ ds : List (Definition Inline Block), definitionsToJson ds = ds.map Definition.toJson
  | [] => rfl
  | d :: ds => by
    rw [definitionsToJson, definitionsToJson_eq ds, List.map_cons, Definition.toJson,
      inlinesToJson_eq, itemsToJson_eq]

@[simp] theorem cellsToJson_eq : ∀ cs : List (Cell Block), cellsToJson cs = cs.map Cell.toJson
  | [] => rfl
  | c :: cs => by rw [cellsToJson, cellsToJson_eq cs, List.map_cons, Cell.toJson, blocksToJson_eq]

@[simp] theorem rowsToJson_eq : ∀ rs : List (Row Block), rowsToJson rs = rs.map Row.toJson
  | [] => rfl
  | r :: rs => by rw [rowsToJson, rowsToJson_eq rs, List.map_cons, Row.toJson, cellsToJson_eq]

@[simp] theorem tableBodiesToJson_eq :
    ∀ ts : List (TableBody Block), tableBodiesToJson ts = ts.map TableBody.toJson
  | [] => rfl
  | t :: ts => by
    rw [tableBodiesToJson, tableBodiesToJson_eq ts, List.map_cons, TableBody.toJson,
      rowsToJson_eq, rowsToJson_eq]

theorem metaItemsToJson_eq : ∀ vs : List MetaValue, metaItemsToJson vs = vs.map MetaValue.toJson
  | [] => rfl
  | v :: vs => by rw [metaItemsToJson, metaItemsToJson_eq vs, List.map_cons]

theorem metaEntriesToJson_eq : ∀ es : List (String × MetaValue),
    metaEntriesToJson es = es.map fun e => (e.1, e.2.toJson)
  | [] => rfl
  | (k, v) :: es => by rw [metaEntriesToJson, metaEntriesToJson_eq es, List.map_cons]

theorem metaEntriesToJson_ascending {es : List (String × MetaValue)} (h : Json.Ascending es) :
    Json.Ascending (es.map fun e => (e.1, e.2.toJson)) :=
  List.pairwise_map.mpr h

theorem ofMembers_metaEntriesToJson {es : List (String × MetaValue)} (h : Json.Ascending es) :
    Json.ofMembers (metaEntriesToJson es) = object (es.map fun e => (e.1, e.2.toJson)) := by
  rw [metaEntriesToJson_eq, Json.ofMembers_eq (metaEntriesToJson_ascending h)]

/-! ## The members of a document -/

theorem find?_blocks (b m v : Json) :
    Json.find? "blocks" [("blocks", b), ("meta", m), ("pandoc-api-version", v)] = some b := rfl

theorem find?_meta (b m v : Json) :
    Json.find? "meta" [("blocks", b), ("meta", m), ("pandoc-api-version", v)] = some m := rfl

theorem find?_version (b m v : Json) :
    Json.find? "pandoc-api-version" [("blocks", b), ("meta", m), ("pandoc-api-version", v)] =
      some v := rfl

/-! ## Depth -/

theorem depth_tagged (tag : String) (c : Json) : (tagged tag c).depth = c.depth + 1 := by
  simp only [tagged, Json.depth, Json.depthMembers]
  omega

theorem depth_lt_tagged {tag : String} {v : Json} {items : List Json} (h : v ∈ items) :
    v.depth < (tagged tag (array items)).depth := by
  have := Json.depth_lt_array h
  rw [depth_tagged]
  omega

theorem Caption.depth_lists {c : Caption Inline Block} :
    ∀ l ∈ c.lists, l.toJson.depth < (captionToJson c).depth := by
  obtain ⟨short, long⟩ := c
  have h : ∀ v ∈ [shortToJson short, longToJson long],
      v.depth < (captionToJson ⟨short, long⟩).depth := fun v hv => by
    rw [captionToJson]
    exact Json.depth_lt_array hv
  cases short <;> cases long <;>
    simp_all [Caption.lists, shortToJson, longToJson, NodeList.toJson]

theorem Row.depth_lists {r : Row Block} {l : NodeList} (h : l ∈ r.lists) :
    l.toJson.depth < r.toJson.depth := by
  obtain ⟨c, hc, rfl⟩ := List.mem_map.mp h
  have h₁ : (array (c.content.map Block.toJson)).depth < c.toJson.depth :=
    Json.depth_lt_array (by simp)
  have h₂ : c.toJson.depth < (array (r.cells.map Cell.toJson)).depth :=
    Json.depth_lt_array (List.mem_map_of_mem hc)
  have h₃ : (array (r.cells.map Cell.toJson)).depth < r.toJson.depth :=
    Json.depth_lt_array (by simp)
  exact Nat.lt_trans h₁ (Nat.lt_trans h₂ h₃)

theorem depth_rows {rs : List (Row Block)} {l : NodeList} (h : l ∈ rs.flatMap Row.lists) :
    l.toJson.depth < (array (rs.map Row.toJson)).depth := by
  obtain ⟨r, hr, hl⟩ := List.mem_flatMap.mp h
  exact Nat.lt_trans (Row.depth_lists hl) (Json.depth_lt_array (List.mem_map_of_mem hr))

theorem TableEnd.depth_lists {t : TableEnd Block} {l : NodeList} (h : l ∈ t.lists) :
    l.toJson.depth < (tableEndToJson t).depth := by
  obtain ⟨attr, rows⟩ := t
  rw [tableEndToJson, rowsToJson_eq]
  exact Nat.lt_trans (depth_rows h) (Json.depth_lt_array (by simp))

theorem TableBody.depth_lists {t : TableBody Block} {l : NodeList} (h : l ∈ t.lists) :
    l.toJson.depth < t.toJson.depth := by
  rcases List.mem_append.mp h with h | h
  · exact Nat.lt_trans (depth_rows h) (Json.depth_lt_array (by simp))
  · exact Nat.lt_trans (depth_rows h) (Json.depth_lt_array (by simp))

theorem Definition.depth_lists {d : Definition Inline Block} {l : NodeList} (h : l ∈ d.lists) :
    l.toJson.depth < d.toJson.depth := by
  rcases List.mem_cons.mp h with rfl | h
  · exact Json.depth_lt_array (by simp [NodeList.toJson])
  · obtain ⟨item, hitem, rfl⟩ := List.mem_map.mp h
    have h₁ : (itemToJson item).depth < (array (d.definitions.map itemToJson)).depth :=
      Json.depth_lt_array (List.mem_map_of_mem hitem)
    have h₂ : (array (d.definitions.map itemToJson)).depth < d.toJson.depth :=
      Json.depth_lt_array (by simp)
    exact Nat.lt_trans h₁ h₂

theorem Citation.depth_lists {c : Citation Inline} {l : NodeList} (h : l ∈ c.lists) :
    l.toJson.depth < c.toJson.depth := by
  have hm : ∀ m ∈ [("citationPrefix", array (c.before.map Inline.toJson)),
      ("citationSuffix", array (c.after.map Inline.toJson))], m.2.depth < c.toJson.depth := by
    intro m hm
    have : m.2.depth ≤ Json.depthMembers _ :=
      Json.depth_le_depthMembers (List.mem_append_right
        [("citationHash", integerToJson c.hash), ("citationId", string c.id),
          ("citationMode", bare c.mode.tag), ("citationNoteNum", integerToJson c.noteNumber)] hm)
    simp only [Citation.toJson, Json.depth]
    exact Nat.lt_of_le_of_lt this (by simp)
  simp only [Citation.lists, List.mem_cons, List.not_mem_nil, or_false] at h
  rcases h with rfl | rfl
  · exact hm (_, _) List.mem_cons_self
  · exact hm (_, _) (List.mem_cons_of_mem _ List.mem_cons_self)

theorem Inline.depth_lists {x : Inline} {l : NodeList} (h : l ∈ x.lists) :
    l.toJson.depth < x.toJson.depth := by
  cases x with
  | cite citations content =>
    simp only [Inline.lists, List.mem_append, List.mem_flatMap, List.mem_singleton] at h
    simp only [Inline.toJson, citationsToJson_eq, inlinesToJson_eq]
    rcases h with ⟨c, hc, hl⟩ | rfl
    · have h₁ := Citation.depth_lists hl
      have h₂ : c.toJson.depth < (array (citations.map Citation.toJson)).depth :=
        Json.depth_lt_array (List.mem_map_of_mem hc)
      exact Nat.lt_trans h₁ (Nat.lt_trans h₂ (depth_lt_tagged (by simp)))
    · exact depth_lt_tagged (by simp [NodeList.toJson])
  | styled style content =>
    simp_all [Inline.lists, Inline.toJson, NodeList.toJson, depth_tagged]
  | note content =>
    simp_all [Inline.lists, Inline.toJson, NodeList.toJson, depth_tagged]
  | quoted _ content | link _ content _ | image _ content _ | span _ content =>
    simp only [Inline.lists, List.mem_singleton] at h
    rw [h, Inline.toJson]
    exact depth_lt_tagged (by simp [NodeList.toJson])
  | _ => simp [Inline.lists] at h

theorem Block.depth_lists {x : Block} {l : NodeList} (h : l ∈ x.lists) :
    l.toJson.depth < x.toJson.depth := by
  cases x with
  | plain content | para content | blockQuote content =>
    simp_all [Block.lists, Block.toJson, NodeList.toJson, depth_tagged]
  | lineBlock lines =>
    obtain ⟨line, hline, rfl⟩ := List.mem_map.mp h
    rw [Block.toJson, linesToJson_eq]
    exact depth_lt_tagged (List.mem_map_of_mem hline)
  | orderedList numbering items =>
    obtain ⟨item, hitem, rfl⟩ := List.mem_map.mp h
    rw [Block.toJson, itemsToJson_eq]
    have : (itemToJson item).depth < (array (items.map itemToJson)).depth :=
      Json.depth_lt_array (List.mem_map_of_mem hitem)
    exact Nat.lt_trans this (depth_lt_tagged (by simp))
  | bulletList items =>
    obtain ⟨item, hitem, rfl⟩ := List.mem_map.mp h
    rw [Block.toJson, itemsToJson_eq]
    exact depth_lt_tagged (List.mem_map_of_mem (f := itemToJson) hitem)
  | definitionList items =>
    obtain ⟨d, hd, hl⟩ := List.mem_flatMap.mp h
    rw [Block.toJson, definitionsToJson_eq]
    exact Nat.lt_trans (Definition.depth_lists hl) (depth_lt_tagged (List.mem_map_of_mem hd))
  | header _ _ content | div _ content =>
    simp only [Block.lists, List.mem_singleton] at h
    rw [h, Block.toJson]
    exact depth_lt_tagged (by simp [NodeList.toJson])
  | table attr caption columns head bodies foot =>
    simp only [Block.lists, List.mem_append, List.mem_flatMap] at h
    rw [Block.toJson, tableBodiesToJson_eq]
    rcases h with ((h | h) | ⟨t, ht, h⟩) | h
    · exact Nat.lt_trans (Caption.depth_lists _ h) (depth_lt_tagged (by simp))
    · exact Nat.lt_trans (TableEnd.depth_lists h) (depth_lt_tagged (by simp))
    · have : t.toJson.depth < (array (bodies.map TableBody.toJson)).depth :=
        Json.depth_lt_array (List.mem_map_of_mem ht)
      exact Nat.lt_trans (TableBody.depth_lists h)
        (Nat.lt_trans this (depth_lt_tagged (by simp)))
    · exact Nat.lt_trans (TableEnd.depth_lists h) (depth_lt_tagged (by simp))
  | figure attr caption content =>
    simp only [Block.lists, List.mem_append, List.mem_singleton] at h
    rw [Block.toJson]
    rcases h with h | rfl
    · exact Nat.lt_trans (Caption.depth_lists _ h) (depth_lt_tagged (by simp))
    · exact depth_lt_tagged (by simp [NodeList.toJson])
  | _ => simp [Block.lists] at h

/-- **A list of nodes is written less deep than the node it is below.** -/
theorem Node.depth_lists {x : Node} {l : NodeList} (h : l ∈ x.lists) :
    l.toJson.depth < x.toJson.depth := by
  cases x with
  | inline x => exact Inline.depth_lists h
  | block x => exact Block.depth_lists h

theorem NodeList.toJson_eq (l : NodeList) : l.toJson = array (l.members.map Node.toJson) := by
  cases l <;> simp [NodeList.toJson, NodeList.members, Node.toJson, Function.comp_def]

theorem NodeList.depth_lt_of_mem {l : NodeList} {x : Node} (h : x ∈ l.members) :
    x.toJson.depth < l.toJson.depth := by
  rw [l.toJson_eq]
  exact Json.depth_lt_array (List.mem_map_of_mem h)

end DeckFilter
