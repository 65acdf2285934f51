import DeckFilter.Document.Decode
import DeckFilter.Proofs.Json.Normal

/-!
# Where a document has its nodes

Inlines, blocks and metadata values stand at fixed positions: which parts of a node hold nodes, and
of what kind they are, depends on its tag alone. The reader takes them from left to right, the
members of an object in ascending order of their keys; of the whole document, it takes the metadata
before the blocks.

* `Json.Step`, `Json.Path`, `Json.Before`: positions in a value, and their order;
* `Json.Edits`, `Json.patch`: a value with others in place of some values in it;
* `NodeKind`, `Layout`, `NodeKind.content`: the parts of every node;
* `Layout.ReadAt`, `Json.NodeAt`, `Json.ReadBefore`: the positions of nodes, and the order in which
  they are read.
-/

namespace DeckFilter

namespace Json

/-! ## Positions in a value -/

/-- One step down in a value: to an item of an array, or to a member of an object. -/
inductive Step where
  | item (i : Nat)
  | member (key : String)
  deriving DecidableEq, Repr

/-- The way down to a position in a value. -/
abbrev Path := List Step

/-- Items from left to right, members in ascending order of their keys. -/
inductive Before : Path → Path → Prop
  | items {i j : Nat} (h : i < j) (p q : Path) : Before (.item i :: p) (.item j :: q)
  | members {k l : String} (h : k < l) (p q : Path) : Before (.member k :: p) (.member l :: q)
  | deeper (s : Step) {p q : Path} (h : Before p q) : Before (s :: p) (s :: q)

theorem Before.of_items {i j : Nat} {p q : Path} (hp : p.head? = some (.item i))
    (hq : q.head? = some (.item j)) (h : i < j) : Before p q := by
  obtain ⟨p, rfl⟩ := List.head?_eq_some_iff.mp hp
  obtain ⟨q, rfl⟩ := List.head?_eq_some_iff.mp hq
  exact .items h p q

theorem Before.of_members {k l : String} {p q : Path} (hp : p.head? = some (.member k))
    (hq : q.head? = some (.member l)) (h : k < l) : Before p q := by
  obtain ⟨p, rfl⟩ := List.head?_eq_some_iff.mp hp
  obtain ⟨q, rfl⟩ := List.head?_eq_some_iff.mp hq
  exact .members h p q

/-! ## Values in place of others -/

/-- What stands in place of what is at some positions, each with the error with which it is
rejected. -/
abbrev Edits := Path → Option (Json × DecodeError)

/-- The edits below one step. -/
def Edits.below (edits : Edits) (s : Step) : Edits := fun p => edits (s :: p)

/-- What stands where a value stood: the value itself if there is no edit for it. -/
def Edits.here (edits : Edits) (v : Json) : Json :=
  match edits [] with
  | some (w, _) => w
  | none => v

mutual

/-- A value with others in place of what is at some positions in it. -/
def patch : Json → Edits → Json
  | array items, edits => edits.here (array (patchItems 0 items edits))
  | object members, edits => edits.here (object (patchMembers members edits))
  | null, edits => edits.here null
  | bool b, edits => edits.here (bool b)
  | number n, edits => edits.here (number n)
  | string s, edits => edits.here (string s)

/-- The items of an array, numbered from `i`, with others in place of values in them. -/
def patchItems : Nat → List Json → Edits → List Json
  | _, [], _ => []
  | i, v :: rest, edits => v.patch (edits.below (.item i)) :: patchItems (i + 1) rest edits

/-- The members of an object with others in place of values in them. -/
def patchMembers : List (String × Json) → Edits → List (String × Json)
  | [], _ => []
  | (k, v) :: rest, edits => (k, v.patch (edits.below (.member k))) :: patchMembers rest edits

end

section Patch

variable {edits : Edits}

theorem patch_of_some {w : Json} {e : DecodeError} (h : edits [] = some (w, e)) (v : Json) :
    v.patch edits = w := by
  cases v <;> rw [patch, Edits.here, h]

theorem patch_array (h : edits [] = none) (items : List Json) :
    (array items).patch edits = array (patchItems 0 items edits) := by
  rw [patch, Edits.here, h]

theorem patch_object (h : edits [] = none) (members : List (String × Json)) :
    (object members).patch edits = object (patchMembers members edits) := by
  rw [patch, Edits.here, h]

mutual

theorem patch_none {edits : Edits} (h : ∀ p, edits p = none) : ∀ v : Json, v.patch edits = v
  | array items => by rw [patch_array (h []), patchItems_none h 0 items]
  | object members => by rw [patch_object (h []), patchMembers_none h members]
  | null | bool _ | number _ | string _ => by rw [patch, Edits.here, h []]

theorem patchItems_none {edits : Edits} (h : ∀ p, edits p = none) : ∀ (i : Nat) (items : List Json),
    patchItems i items edits = items
  | _, [] => rfl
  | i, v :: rest => by
    have hv : v.patch (edits.below (.item i)) = v := patch_none (fun p => h (.item i :: p)) v
    rw [patchItems, hv, patchItems_none h]

theorem patchMembers_none {edits : Edits} (h : ∀ p, edits p = none) :
    ∀ members : List (String × Json), patchMembers members edits = members
  | [] => rfl
  | (k, v) :: rest => by
    have hv : v.patch (edits.below (.member k)) = v := patch_none (fun p => h (.member k :: p)) v
    rw [patchMembers, hv, patchMembers_none h]

end

theorem find?_patchMembers (k : String) : ∀ members : List (String × Json),
    find? k (patchMembers members edits) =
      (find? k members).map fun v => v.patch (edits.below (.member k))
  | [] => rfl
  | (k', v) :: rest => by
    rw [patchMembers, find?, find?]
    split_ifs with hk
    · rw [hk]
      rfl
    · exact find?_patchMembers k rest

theorem find?_patchMembers_of_none {members : List (String × Json)} {key : String}
    (h : ∀ p, edits (.member key :: p) = none) :
    find? key (patchMembers members edits) = find? key members := by
  have hstays (v : Json) : v.patch (edits.below (.member key)) = v := patch_none h v
  rw [find?_patchMembers, funext hstays, Option.map_id']

end Patch

/-- A value has a tag and, with it, a content. -/
def HasContent (v : Json) (tag : String) (c : Json) : Prop :=
  ∃ members, v = object members ∧ find? "t" members = some (string tag) ∧
    find? "c" members = some c

end Json

/-! ## The parts of nodes -/

/-- What a node is. -/
inductive NodeKind where
  | inline | block | metadata
  deriving DecidableEq, Repr

/-- Where a value has nodes: nowhere, as it is one, in each of its items, in items each with a
layout of its own, in each of its members, or in the texts of a citation. -/
inductive Layout where
  | leaf
  | node (k : NodeKind)
  | each (l : Layout)
  | tuple (ls : List Layout)
  | entries (l : Layout)
  | citation

namespace Layout

/-- A list of inlines. -/
def inlines : Layout := each (node .inline)

/-- A list of blocks. -/
def blocks : Layout := each (node .block)

/-- A short and a long caption. -/
def caption : Layout := tuple [inlines, blocks]

/-- Attribute, alignment, the two spans and the content of a cell. -/
def cell : Layout := tuple [leaf, leaf, leaf, leaf, blocks]

/-- Rows, each with an attribute and cells. -/
def rows : Layout := each (tuple [leaf, each cell])

/-- Attribute and rows of the head or the foot of a table. -/
def tableEnd : Layout := tuple [leaf, rows]

/-- Attribute, number of head columns, head rows and other rows of a body of a table. -/
def tableBody : Layout := tuple [leaf, leaf, rows, rows]

end Layout

open Layout in
/-- The layout of the content of a node with a tag. -/
def NodeKind.content : NodeKind → String → Layout
  | inline, tag =>
    match tag with
    | "Emph" | "Underline" | "Strong" | "Strikeout" | "Superscript" | "Subscript"
    | "SmallCaps" => inlines
    | "Quoted" => tuple [leaf, inlines]
    | "Cite" => tuple [each citation, inlines]
    | "Link" | "Image" => tuple [leaf, inlines, leaf]
    | "Note" => blocks
    | "Span" => tuple [leaf, inlines]
    | _ => leaf
  | block, tag =>
    match tag with
    | "Plain" | "Para" => inlines
    | "LineBlock" => each inlines
    | "BlockQuote" => blocks
    | "OrderedList" => tuple [leaf, each blocks]
    | "BulletList" => each blocks
    | "DefinitionList" => each (tuple [inlines, each blocks])
    | "Header" => tuple [leaf, leaf, inlines]
    | "Table" => tuple [leaf, caption, leaf, tableEnd, each tableBody, tableEnd]
    | "Figure" => tuple [leaf, caption, blocks]
    | "Div" => tuple [leaf, blocks]
    | _ => leaf
  | metadata, tag =>
    match tag with
    | "MetaInlines" => inlines
    | "MetaBlocks" => blocks
    | "MetaList" => each (node .metadata)
    | "MetaMap" => entries (node .metadata)
    | _ => leaf

namespace Layout

/-- The layout of an item. -/
def item : Layout → Nat → Layout
  | each l, _ => l
  | tuple ls, i => ls.getD i leaf
  | _, _ => leaf

/-- The layout of a member: the content of a node has the one of its tag. -/
def member (l : Layout) (members : List (String × Json)) (key : String) : Layout :=
  match l with
  | entries l => l
  | citation => if key = "citationPrefix" ∨ key = "citationSuffix" then inlines else leaf
  | node k =>
    match key, Json.find? "t" members with
    | "c", some (.string tag) => k.content tag
    | _, _ => leaf
  | _ => leaf

/-- In a value of a layout, there is a node of a kind at a position. -/
inductive ReadAt : Layout → Json → Json.Path → NodeKind → Prop
  | here (k : NodeKind) (v : Json) : ReadAt (node k) v [] k
  | item {l : Layout} {items : List Json} {i : Nat} {v : Json} {p : Json.Path} {k : NodeKind}
      (hv : items[i]? = some v) (h : ReadAt (l.item i) v p k) :
      ReadAt l (.array items) (.item i :: p) k
  | member {l : Layout} {members : List (String × Json)} {key : String} {v : Json} {p : Json.Path}
      {k : NodeKind} (hv : Json.find? key members = some v)
      (h : ReadAt (l.member members key) v p k) : ReadAt l (.object members) (.member key :: p) k

theorem not_readAt_leaf {v : Json} {p : Json.Path} {k : NodeKind} : ¬leaf.ReadAt v p k := by
  intro h
  generalize hl : leaf = l at h
  induction h with
  | here => cases hl
  | item hv h ih =>
    subst hl
    exact ih rfl
  | member hv h ih =>
    subst hl
    exact ih rfl

end Layout

/-! ## Documents -/

/-- The layout of a member of a document. -/
def Layout.document : String → Layout
  | "meta" => entries (node .metadata)
  | "blocks" => blocks
  | _ => leaf

namespace Json

/-- In the value of a document, there is a node of a kind at a position. -/
inductive NodeAt : Json → Path → NodeKind → Prop
  | member {members : List (String × Json)} {key : String} {v : Json} {p : Path} {k : NodeKind}
      (hv : find? key members = some v) (h : (Layout.document key).ReadAt v p k) :
      NodeAt (object members) (.member key :: p) k

theorem NodeAt.head? {v : Json} {p : Path} {k : NodeKind} (h : NodeAt v p k) :
    p.head? = some (.member "meta") ∨ p.head? = some (.member "blocks") := by
  obtain ⟨-, hread⟩ := h
  unfold Layout.document at hread
  split at hread
  · exact .inl rfl
  · exact .inr rfl
  · exact absurd hread Layout.not_readAt_leaf

/-- Metadata is read before blocks, and each of them in order. -/
inductive ReadBefore : Path → Path → Prop
  | metadata (p q : Path) : ReadBefore (.member "meta" :: p) (.member "blocks" :: q)
  | deeper (key : String) {p q : Path} (h : Before p q) :
      ReadBefore (.member key :: p) (.member key :: q)

end Json

/-- The reader for a kind of nodes rejects a value with an error. -/
def NodeKind.Rejects : NodeKind → Json → DecodeError → Prop
  | inline, v, e => inlineOfJson v = .error e
  | block, v, e => blockOfJson v = .error e
  | metadata, v, e => metaOfJson v = .error e

end DeckFilter
