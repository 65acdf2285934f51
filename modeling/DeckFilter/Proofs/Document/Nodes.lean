import DeckFilter.Document.Height
import DeckFilter.Document.Traverse
import Mathlib.Data.List.Forall2

/-!
# The nodes of a document

A node holds lists of nodes, and nothing else in it does. Whatever is said about a document at every
depth is said about these lists, one level at a time.

* `NodeList`, `Node`: a list of inlines or of blocks; an inline or a block;
* `Inline.lists`, `Block.lists`, `MetaValue.lists`, `Document.lists`: the lists one level down, in
  reading order;
* `NodeList.height_lt_of_mem_lists`: every level down is a step towards the leaves, which gives the
  induction `NodeList.induction`;
* `NodeList.nodes`, `Document.nodes`: all nodes, every node before the nodes below it;
* `NodeList.mem_nodes_of_mem_nodes`: what is below a node of a list is below the list.
-/

namespace DeckFilter

/-- A list of inlines or a list of blocks. -/
inductive NodeList where
  | inlines (content : List Inline)
  | blocks (content : List Block)

/-- An inline or a block. -/
inductive Node where
  | inline (x : Inline)
  | block (x : Block)

/-! ## One level down -/

/-- The text before the citation, then the text after it. -/
def Citation.lists (c : Citation Inline) : List NodeList := [.inlines c.before, .inlines c.after]

/-- The short caption, then the long one. -/
def Caption.lists (c : Caption Inline Block) : List NodeList :=
  (c.short.map .inlines).toList ++ (c.long.map .blocks).toList

/-- The content of the cells of a row. -/
def Row.lists (r : Row Block) : List NodeList := r.cells.map fun c => .blocks c.content

/-- The content of the cells at an end of a table. -/
def TableEnd.lists (t : TableEnd Block) : List NodeList := t.rows.flatMap Row.lists

/-- The content of the cells of a body: its head rows come first. -/
def TableBody.lists (t : TableBody Block) : List NodeList :=
  t.head.flatMap Row.lists ++ t.rows.flatMap Row.lists

/-- The term, then its definitions. -/
def Definition.lists (d : Definition Inline Block) : List NodeList :=
  .inlines d.term :: d.definitions.map .blocks

/-- The lists below an inline, in reading order. -/
def Inline.lists : Inline → List NodeList
  | styled _ content => [.inlines content]
  | quoted _ content => [.inlines content]
  | cite citations content => citations.flatMap Citation.lists ++ [.inlines content]
  | link _ content _ => [.inlines content]
  | image _ description _ => [.inlines description]
  | note content => [.blocks content]
  | span _ content => [.inlines content]
  | _ => []

/-- The lists below a block, in reading order. -/
def Block.lists : Block → List NodeList
  | plain content => [.inlines content]
  | para content => [.inlines content]
  | lineBlock lines => lines.map .inlines
  | blockQuote content => [.blocks content]
  | orderedList _ items => items.map .blocks
  | bulletList items => items.map .blocks
  | definitionList items => items.flatMap Definition.lists
  | header _ _ content => [.inlines content]
  | table _ caption _ head bodies foot =>
    caption.lists ++ head.lists ++ bodies.flatMap TableBody.lists ++ foot.lists
  | figure _ caption content => caption.lists ++ [.blocks content]
  | div _ content => [.blocks content]
  | _ => []

/-- The lists below a node. -/
def Node.lists : Node → List NodeList
  | inline x => x.lists
  | block x => x.lists

mutual

/-- The topmost lists of a metadata value, in reading order. -/
def MetaValue.lists : MetaValue → List NodeList
  | .inlines content => [.inlines content]
  | .blocks content => [.blocks content]
  | .list items => metaItemsLists items
  | .map entries => metaEntriesLists entries
  | _ => []

/-- The topmost lists of metadata values. -/
def metaItemsLists : List MetaValue → List NodeList
  | [] => []
  | v :: rest => v.lists ++ metaItemsLists rest

/-- The topmost lists of metadata entries. -/
def metaEntriesLists : List (String × MetaValue) → List NodeList
  | [] => []
  | (_, v) :: rest => v.lists ++ metaEntriesLists rest

end

/-- The topmost lists of a document: metadata before blocks. -/
def Document.lists (d : Document) : List NodeList :=
  metaEntriesLists d.metadata ++ [.blocks d.blocks]

theorem metaItemsLists_eq (items : List MetaValue) :
    metaItemsLists items = items.flatMap MetaValue.lists := by
  induction items with
  | nil => rfl
  | cons v items ih => rw [metaItemsLists, ih, List.flatMap_cons]

theorem metaEntriesLists_eq (entries : List (String × MetaValue)) :
    metaEntriesLists entries = entries.flatMap fun e => e.2.lists := by
  induction entries with
  | nil => rfl
  | cons e entries ih => rw [metaEntriesLists, ih, List.flatMap_cons]

theorem MetaValue.induction {P : MetaValue → Prop} (string : ∀ s, P (.string s))
    (bool : ∀ b, P (.bool b)) (inlines : ∀ content, P (.inlines content))
    (blocks : ∀ content, P (.blocks content))
    (list : ∀ items : List MetaValue, (∀ v ∈ items, P v) → P (.list items))
    (map : ∀ entries : List (String × MetaValue), (∀ e ∈ entries, P e.2) → P (.map entries))
    (v : MetaValue) : P v := by
  refine @MetaValue.rec P (fun items => ∀ v ∈ items, P v) (fun entries => ∀ e ∈ entries, P e.2)
    (fun e => P e.2) string bool inlines blocks list map ?_ ?_ ?_ ?_ ?_ v
  · exact List.forall_mem_nil _
  · exact fun v items hv hitems => List.forall_mem_cons.mpr ⟨hv, hitems⟩
  · exact List.forall_mem_nil _
  · exact fun e entries he hentries => List.forall_mem_cons.mpr ⟨he, hentries⟩
  · exact fun key v hv => hv

/-! ## Going down ends -/

/-- The height of a list of nodes. -/
def NodeList.height : NodeList → Nat
  | inlines content => inlinesHeight content
  | blocks content => blocksHeight content

/-- The height of the highest list below a node. -/
def Node.height : Node → Nat
  | inline x => x.height
  | block x => x.height

/-- The nodes of a list. -/
def NodeList.members : NodeList → List Node
  | inlines content => content.map .inline
  | blocks content => content.map .block

theorem inlinesHeight_le {n : Nat} : ∀ {xs : List Inline},
    inlinesHeight xs ≤ n ↔ ∀ x ∈ xs, x.height + 1 ≤ n
  | [] => by simp [inlinesHeight]
  | x :: xs => by
    rw [inlinesHeight, Nat.max_le, inlinesHeight_le]
    simp

theorem blocksHeight_le {n : Nat} : ∀ {xs : List Block},
    blocksHeight xs ≤ n ↔ ∀ x ∈ xs, x.height + 1 ≤ n
  | [] => by simp [blocksHeight]
  | x :: xs => by
    rw [blocksHeight, Nat.max_le, blocksHeight_le]
    simp

theorem NodeList.height_lt_of_mem {l : NodeList} {x : Node} (h : x ∈ l.members) :
    x.height < l.height := by
  cases l with
  | inlines xs =>
    obtain ⟨y, hy, rfl⟩ := List.mem_map.mp h
    exact inlinesHeight_le.mp (Nat.le_refl _) y hy
  | blocks xs =>
    obtain ⟨y, hy, rfl⟩ := List.mem_map.mp h
    exact blocksHeight_le.mp (Nat.le_refl _) y hy

theorem citationsHeight_le {n : Nat} : ∀ {cs : List (Citation Inline)},
    citationsHeight cs ≤ n ↔ ∀ c ∈ cs, ∀ l ∈ c.lists, l.height ≤ n
  | [] => by simp [citationsHeight]
  | ⟨_, before, after, _, _, _⟩ :: rest => by
    rw [citationsHeight, Nat.max_le, Nat.max_le, citationsHeight_le]
    simp [Citation.lists, NodeList.height]

theorem linesHeight_le {n : Nat} : ∀ {xs : List (List Inline)},
    linesHeight xs ≤ n ↔ ∀ x ∈ xs, inlinesHeight x ≤ n
  | [] => by simp [linesHeight]
  | x :: xs => by
    rw [linesHeight, Nat.max_le, linesHeight_le]
    simp

theorem itemsHeight_le {n : Nat} : ∀ {xs : List (List Block)},
    itemsHeight xs ≤ n ↔ ∀ x ∈ xs, blocksHeight x ≤ n
  | [] => by simp [itemsHeight]
  | x :: xs => by
    rw [itemsHeight, Nat.max_le, itemsHeight_le]
    simp

theorem definitionsHeight_le {n : Nat} : ∀ {ds : List (Definition Inline Block)},
    definitionsHeight ds ≤ n ↔ ∀ d ∈ ds, ∀ l ∈ d.lists, l.height ≤ n
  | [] => by simp [definitionsHeight]
  | ⟨term, definitions⟩ :: rest => by
    rw [definitionsHeight, Nat.max_le, Nat.max_le, definitionsHeight_le, itemsHeight_le]
    simp [Definition.lists, NodeList.height]

theorem captionHeight_le {n : Nat} {c : Caption Inline Block} :
    captionHeight c ≤ n ↔ ∀ l ∈ c.lists, l.height ≤ n := by
  obtain ⟨short, long⟩ := c
  rw [captionHeight, Nat.max_le]
  cases short <;> cases long <;>
    simp [shortHeight, longHeight, Caption.lists, NodeList.height]

theorem cellsHeight_le {n : Nat} : ∀ {cs : List (Cell Block)},
    cellsHeight cs ≤ n ↔ ∀ c ∈ cs, blocksHeight c.content ≤ n
  | [] => by simp [cellsHeight]
  | ⟨_, _, _, _, content⟩ :: rest => by
    rw [cellsHeight, Nat.max_le, cellsHeight_le]
    simp

theorem rowsHeight_le {n : Nat} : ∀ {rs : List (Row Block)},
    rowsHeight rs ≤ n ↔ ∀ l ∈ rs.flatMap Row.lists, l.height ≤ n
  | [] => by simp [rowsHeight]
  | ⟨_, cells⟩ :: rest => by
    rw [rowsHeight, Nat.max_le, rowsHeight_le, cellsHeight_le, List.flatMap_cons,
      List.forall_mem_append]
    simp [Row.lists, NodeList.height]

theorem tableEndHeight_le {n : Nat} {t : TableEnd Block} :
    tableEndHeight t ≤ n ↔ ∀ l ∈ t.lists, l.height ≤ n := by
  obtain ⟨_, rows⟩ := t
  rw [tableEndHeight, rowsHeight_le, TableEnd.lists]

theorem tableBodiesHeight_le {n : Nat} : ∀ {ts : List (TableBody Block)},
    tableBodiesHeight ts ≤ n ↔ ∀ l ∈ ts.flatMap TableBody.lists, l.height ≤ n
  | [] => by simp [tableBodiesHeight]
  | ⟨_, _, head, rows⟩ :: rest => by
    rw [tableBodiesHeight, Nat.max_le, Nat.max_le, tableBodiesHeight_le, rowsHeight_le,
      rowsHeight_le, List.flatMap_cons, List.forall_mem_append, TableBody.lists,
      List.forall_mem_append]

theorem Inline.height_le {n : Nat} (x : Inline) :
    x.height ≤ n ↔ ∀ l ∈ x.lists, l.height ≤ n := by
  cases x with
  | cite citations content =>
    rw [Inline.height, Nat.max_le, citationsHeight_le, Inline.lists, List.forall_mem_append]
    simp [NodeList.height]
    grind
  | _ => simp [Inline.height, Inline.lists, NodeList.height]

theorem Block.height_le {n : Nat} (x : Block) :
    x.height ≤ n ↔ ∀ l ∈ x.lists, l.height ≤ n := by
  cases x with
  | lineBlock lines => simp [Block.height, Block.lists, linesHeight_le, NodeList.height]
  | orderedList numbering items => simp [Block.height, Block.lists, itemsHeight_le, NodeList.height]
  | bulletList items => simp [Block.height, Block.lists, itemsHeight_le, NodeList.height]
  | definitionList items =>
    rw [Block.height, definitionsHeight_le, Block.lists]
    simp
    grind
  | table attr caption columns head bodies foot =>
    rw [Block.height, Nat.max_le, Nat.max_le, Nat.max_le, captionHeight_le, tableEndHeight_le,
      tableBodiesHeight_le, tableEndHeight_le, Block.lists, List.forall_mem_append,
      List.forall_mem_append, List.forall_mem_append, and_assoc, and_assoc, and_assoc]
  | figure attr caption content =>
    rw [Block.height, Nat.max_le, captionHeight_le, Block.lists, List.forall_mem_append]
    simp [NodeList.height]
  | _ => simp [Block.height, Block.lists, NodeList.height]

theorem Node.height_le {n : Nat} (x : Node) : x.height ≤ n ↔ ∀ l ∈ x.lists, l.height ≤ n := by
  cases x with
  | inline x => exact x.height_le
  | block x => exact x.height_le

theorem metaItemsHeight_le {n : Nat} (items : List MetaValue) :
    metaItemsHeight items ≤ n ↔ ∀ v ∈ items, v.height ≤ n := by
  induction items with
  | nil => simp [metaItemsHeight]
  | cons v items ih => rw [metaItemsHeight, Nat.max_le, ih, List.forall_mem_cons]

theorem metaEntriesHeight_le {n : Nat} (entries : List (String × MetaValue)) :
    metaEntriesHeight entries ≤ n ↔ ∀ e ∈ entries, e.2.height ≤ n := by
  induction entries with
  | nil => simp [metaEntriesHeight]
  | cons e entries ih => rw [metaEntriesHeight, Nat.max_le, ih, List.forall_mem_cons]

theorem MetaValue.height_le {n : Nat} (v : MetaValue) :
    v.height ≤ n ↔ ∀ l ∈ v.lists, l.height ≤ n := by
  induction v using MetaValue.induction with
  | string | bool => simp [height, lists]
  | inlines | blocks => simp [height, lists, NodeList.height]
  | list items ih =>
    rw [height, metaItemsHeight_le, lists, metaItemsLists_eq, List.forall_mem_flatMap]
    exact forall₂_congr ih
  | map entries ih =>
    rw [height, metaEntriesHeight_le, lists, metaEntriesLists_eq, List.forall_mem_flatMap]
    exact forall₂_congr ih

theorem Document.height_le {n : Nat} (d : Document) :
    d.height ≤ n ↔ ∀ l ∈ d.lists, l.height ≤ n := by
  have hmetadata := (MetaValue.map d.metadata).height_le (n := n)
  rw [MetaValue.height, MetaValue.lists] at hmetadata
  rw [Document.height, Nat.max_le, hmetadata, Document.lists, List.forall_mem_append,
    List.forall_mem_singleton, NodeList.height]

/-- **Every level down is a step towards the leaves.** -/
theorem NodeList.height_lt_of_mem_lists {l l' : NodeList} {x : Node} (hx : x ∈ l.members)
    (hl : l' ∈ x.lists) : l'.height < l.height :=
  Nat.lt_of_le_of_lt (x.height_le.mp (Nat.le_refl _) l' hl) (NodeList.height_lt_of_mem hx)

theorem NodeList.induction {P : NodeList → Prop}
    (step : ∀ l : NodeList, (∀ x ∈ l.members, ∀ l' ∈ x.lists, P l') → P l) (l : NodeList) :
    P l := by
  induction h : l.height using Nat.strongRecOn generalizing l with
  | ind n ih =>
    refine step l fun x hx l' hl' => ih l'.height ?_ l' rfl
    rw [← h]
    exact NodeList.height_lt_of_mem_lists hx hl'

/-! ## All nodes -/

/-- The nodes of a list and all nodes below them, every node before those below it. -/
def NodeList.nodes (l : NodeList) : List Node :=
  l.members.attach.flatMap fun x => x.1 :: x.1.lists.attach.flatMap fun l' => l'.1.nodes
termination_by l.height
decreasing_by exact NodeList.height_lt_of_mem_lists x.2 l'.2

/-- A node and all nodes below it. -/
def Node.nodes (x : Node) : List Node := x :: x.lists.flatMap NodeList.nodes

/-- All nodes of a document, metadata first. -/
def Document.nodes (d : Document) : List Node := d.lists.flatMap NodeList.nodes

theorem NodeList.nodes_eq (l : NodeList) : l.nodes = l.members.flatMap Node.nodes := by
  rw [NodeList.nodes]
  simp only [List.flatMap_subtype, List.unattach_attach]
  rfl

theorem Node.forall_nodes {P : Node → Prop} {x : Node} :
    (∀ y ∈ x.nodes, P y) ↔ P x ∧ ∀ l ∈ x.lists, ∀ y ∈ l.nodes, P y := by
  simp [Node.nodes]
  grind

theorem NodeList.forall_nodes {P : Node → Prop} {l : NodeList} :
    (∀ y ∈ l.nodes, P y) ↔ ∀ x ∈ l.members, ∀ y ∈ x.nodes, P y := by
  rw [NodeList.nodes_eq]
  simp only [List.mem_flatMap]
  grind

theorem NodeList.mem_nodes_of_mem {l : NodeList} {x z : Node} (hx : x ∈ l.members)
    (hz : z ∈ x.nodes) : z ∈ l.nodes := by
  rw [nodes_eq]
  exact List.mem_flatMap.mpr ⟨x, hx, hz⟩

theorem Node.mem_nodes_of_mem {x z : Node} {l : NodeList} (hl : l ∈ x.lists) (hz : z ∈ l.nodes) :
    z ∈ x.nodes :=
  List.mem_cons_of_mem x (List.mem_flatMap.mpr ⟨l, hl, hz⟩)

theorem NodeList.mem_nodes_of_mem_nodes {l : NodeList} {x z : Node} (hx : x ∈ l.nodes)
    (hz : z ∈ x.nodes) : z ∈ l.nodes := by
  induction l using NodeList.induction with
  | step l ih =>
    rw [nodes_eq] at hx
    obtain ⟨y, hy, hx⟩ := List.mem_flatMap.mp hx
    refine mem_nodes_of_mem hy ?_
    rcases List.mem_cons.mp hx with rfl | hx
    · exact hz
    · obtain ⟨l', hl', hx⟩ := List.mem_flatMap.mp hx
      exact Node.mem_nodes_of_mem hl' (ih y hy l' hl' hx)

end DeckFilter
