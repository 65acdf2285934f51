import DeckFilter.Proofs.Document.Written

/-!
# Canonical documents

Three things about a document are lost when it is written: the order of metadata entries, whether a
caption has a long part when that part is empty, and widths that are no finite numbers. A document
is canonical when there is nothing of the kind to be lost.

* `Block.WellShaped`: captions with a long part, and finite widths;
* `MetaValue.Sorted`: metadata maps in ascending order of their keys;
* `NodeList.Canonical`, `MetaValue.Canonical`, `Document.Canonical`: both, at every depth.
-/

namespace DeckFilter

/-- A width is unset or a finite number. -/
def ColumnWidth.Finite : ColumnWidth → Prop
  | default => True
  | share width => width.isFinite

/-- The caption of a block has a long part, and the columns of a table have finite widths. -/
def Block.WellShaped : Block → Prop
  | table _ caption columns _ _ _ => caption.long.isSome ∧ ∀ c ∈ columns, c.width.Finite
  | figure _ caption _ => caption.long.isSome
  | _ => True

/-- Only blocks can be out of shape. -/
def Node.WellShaped : Node → Prop
  | inline _ => True
  | block x => x.WellShaped

/-- A node and all nodes below it are well-shaped. -/
def Node.Canonical (x : Node) : Prop := ∀ y ∈ x.nodes, y.WellShaped

/-- All nodes of a list and all below them are well-shaped. -/
def NodeList.Canonical (l : NodeList) : Prop := ∀ y ∈ l.nodes, y.WellShaped

/-- An inline that is canonical as a node. -/
def Inline.Canonical (x : Inline) : Prop := (Node.inline x).Canonical

/-- A block that is canonical as a node. -/
def Block.Canonical (x : Block) : Prop := (Node.block x).Canonical

theorem NodeList.canonical_iff {l : NodeList} : l.Canonical ↔ ∀ x ∈ l.members, x.Canonical :=
  NodeList.forall_nodes

theorem Node.canonical_iff {x : Node} : x.Canonical ↔ x.WellShaped ∧ ∀ l ∈ x.lists, l.Canonical :=
  Node.forall_nodes

theorem Inline.canonical_iff {x : Inline} : x.Canonical ↔ ∀ l ∈ x.lists, l.Canonical :=
  Node.canonical_iff.trans ⟨And.right, fun h => ⟨trivial, h⟩⟩

theorem Block.canonical_iff {x : Block} :
    x.Canonical ↔ x.WellShaped ∧ ∀ l ∈ x.lists, l.Canonical :=
  Node.canonical_iff

theorem NodeList.canonical_inlines {xs : List Inline} :
    (NodeList.inlines xs).Canonical ↔ ∀ x ∈ xs, x.Canonical := by
  rw [NodeList.canonical_iff]
  simp [NodeList.members, Inline.Canonical]

theorem NodeList.canonical_blocks {xs : List Block} :
    (NodeList.blocks xs).Canonical ↔ ∀ x ∈ xs, x.Canonical := by
  rw [NodeList.canonical_iff]
  simp [NodeList.members, Block.Canonical]

/-! ## Metadata -/

mutual

/-- Every map in a metadata value stands in ascending order of its keys, with one entry a key. -/
def MetaValue.Sorted : MetaValue → Prop
  | .list items => metaItemsSorted items
  | .map entries => Json.Ascending entries ∧ metaEntriesSorted entries
  | _ => True

/-- The maps in some metadata values stand in order. -/
def metaItemsSorted : List MetaValue → Prop
  | [] => True
  | v :: rest => v.Sorted ∧ metaItemsSorted rest

/-- The maps in some metadata entries stand in order. -/
def metaEntriesSorted : List (String × MetaValue) → Prop
  | [] => True
  | (_, v) :: rest => v.Sorted ∧ metaEntriesSorted rest

end

/-- The maps of a metadata value stand in order, and the nodes in it are well-shaped. -/
def MetaValue.Canonical (v : MetaValue) : Prop := v.Sorted ∧ ∀ l ∈ v.lists, l.Canonical

/-- The metadata maps stand in ascending order of their keys, one entry a key, at every level; every
caption has a long part; and every column width is finite. -/
def Document.Canonical (d : Document) : Prop :=
  (MetaValue.map d.metadata).Sorted ∧ ∀ x ∈ d.nodes, x.WellShaped

theorem metaItemsSorted_iff : ∀ {vs : List MetaValue}, metaItemsSorted vs ↔ ∀ v ∈ vs, v.Sorted
  | [] => by simp [metaItemsSorted]
  | v :: vs => by simp [metaItemsSorted, @metaItemsSorted_iff vs]

theorem metaEntriesSorted_iff : ∀ {es : List (String × MetaValue)},
    metaEntriesSorted es ↔ ∀ e ∈ es, e.2.Sorted
  | [] => by simp [metaEntriesSorted]
  | (k, v) :: es => by simp [metaEntriesSorted, @metaEntriesSorted_iff es]

theorem MetaValue.canonical_list {vs : List MetaValue} :
    (MetaValue.list vs).Canonical ↔ ∀ v ∈ vs, v.Canonical := by
  simp only [MetaValue.Canonical, MetaValue.Sorted, metaItemsSorted_iff, MetaValue.lists,
    metaItemsLists_eq, List.mem_flatMap]
  constructor
  · rintro ⟨hs, hl⟩ v hv
    exact ⟨hs v hv, fun l h => hl l ⟨v, hv, h⟩⟩
  · intro h
    refine ⟨fun v hv => (h v hv).1, ?_⟩
    rintro l ⟨v, hv, hl⟩
    exact (h v hv).2 l hl

theorem MetaValue.canonical_map {es : List (String × MetaValue)} :
    (MetaValue.map es).Canonical ↔ Json.Ascending es ∧ ∀ e ∈ es, e.2.Canonical := by
  simp only [MetaValue.Canonical, MetaValue.Sorted, metaEntriesSorted_iff, MetaValue.lists,
    metaEntriesLists_eq, List.mem_flatMap]
  constructor
  · rintro ⟨⟨ha, hs⟩, hl⟩
    exact ⟨ha, fun e he => ⟨hs e he, fun l h => hl l ⟨e, he, h⟩⟩⟩
  · rintro ⟨ha, h⟩
    refine ⟨⟨ha, fun e he => (h e he).1⟩, ?_⟩
    rintro l ⟨e, he, hl⟩
    exact (h e he).2 l hl

theorem MetaValue.canonical_inlines {xs : List Inline} :
    (MetaValue.inlines xs).Canonical ↔ (NodeList.inlines xs).Canonical := by
  simp [MetaValue.Canonical, MetaValue.Sorted, MetaValue.lists]

theorem MetaValue.canonical_blocks {xs : List Block} :
    (MetaValue.blocks xs).Canonical ↔ (NodeList.blocks xs).Canonical := by
  simp [MetaValue.Canonical, MetaValue.Sorted, MetaValue.lists]

/-- **A document is canonical if its metadata, as a map, and its blocks are.** -/
theorem Document.canonical_iff {d : Document} :
    d.Canonical ↔ (MetaValue.map d.metadata).Canonical ∧ (NodeList.blocks d.blocks).Canonical := by
  simp only [Document.Canonical, Document.nodes, Document.lists, MetaValue.Canonical,
    MetaValue.lists, NodeList.Canonical, List.mem_flatMap, List.mem_append, List.mem_singleton]
  constructor
  · rintro ⟨hs, h⟩
    exact ⟨⟨hs, fun l hl x hx => h x ⟨l, Or.inl hl, hx⟩⟩, fun x hx => h x ⟨_, Or.inr rfl, hx⟩⟩
  · rintro ⟨⟨hs, hm⟩, hb⟩
    refine ⟨hs, ?_⟩
    rintro x ⟨l, hl | rfl, hx⟩
    · exact hm l hl x hx
    · exact hb x hx

end DeckFilter
