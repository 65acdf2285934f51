import DeckFilter.Proofs.Document.MapLists

/-!
# The text of a document

What a document says, in reading order: its words and blanks, code and formulas. Raw markup says
nothing.

* `Node.ownText`: what a node says itself;
* `Document.text`, `NodeList.text`, `Node.text`: what all nodes say;
* `Node.text_eq`, `NodeList.text_eq`, `Document.text_eq`: texts one level at a time;
* `Node.text_mapLists`: changes below a node that leave its text.
-/

namespace DeckFilter

/-- What an inline says itself. -/
def Inline.ownText : Inline → String
  | str text => text
  | space => " "
  | code _ text => text
  | math _ text => text
  | _ => ""

/-- What a block says itself. -/
def Block.ownText : Block → String
  | codeBlock _ text => text
  | _ => ""

/-- What a node says itself. -/
def Node.ownText : Node → String
  | inline x => x.ownText
  | block x => x.ownText

/-- What a node and all nodes below it say. -/
def Node.text (x : Node) : String := String.join (x.nodes.map ownText)

/-- What all nodes of a list say. -/
def NodeList.text (l : NodeList) : String := String.join (l.nodes.map Node.ownText)

/-- What all nodes of a document say, metadata first. -/
def Document.text (d : Document) : String := String.join (d.nodes.map Node.ownText)

/-! ## One level at a time -/

theorem join_flatMap {α : Type} (f : α → List String) (xs : List α) :
    String.join (xs.flatMap f) = String.join (xs.map fun x => String.join (f x)) := by
  induction xs with
  | nil => rfl
  | cons x xs ih => rw [List.flatMap_cons, String.join_append, ih, List.map_cons, String.join_cons]

theorem Node.text_eq (x : Node) :
    x.text = x.ownText ++ String.join (x.lists.map NodeList.text) := by
  rw [text, nodes, List.map_cons, String.join_cons, List.map_flatMap, join_flatMap]
  rfl

theorem NodeList.text_eq (l : NodeList) : l.text = String.join (l.members.map Node.text) := by
  rw [text, nodes_eq, List.map_flatMap, join_flatMap]
  rfl

theorem NodeList.text_inlines_singleton (x : Inline) :
    (inlines [x]).text = (Node.inline x).text := by
  rw [text_eq]
  exact (String.join_cons ..).trans String.append_empty

theorem NodeList.text_blocks_singleton (x : Block) : (blocks [x]).text = (Node.block x).text := by
  rw [text_eq]
  exact (String.join_cons ..).trans String.append_empty

theorem NodeList.text_blocks_append (xs ys : List Block) :
    (blocks (xs ++ ys)).text = (blocks xs).text ++ (blocks ys).text := by
  rw [text_eq, text_eq, text_eq, members, List.map_append, List.map_append, String.join_append]
  rfl

theorem Node.text_of_lists {x : Node} {l : NodeList} (hown : x.ownText = "")
    (hlists : x.lists = [l]) : x.text = l.text := by
  rw [text_eq, hown, hlists, String.empty_append]
  exact (String.join_cons ..).trans String.append_empty

theorem Document.text_eq (d : Document) : d.text = String.join (d.lists.map NodeList.text) := by
  rw [text, nodes, List.map_flatMap, join_flatMap]
  rfl

/-! ## Changes -/

section Changes

variable {f : List Inline → List Inline} {g : List Block → List Block}

theorem Node.ownText_mapLists (x : Node) : (x.mapLists f g).ownText = x.ownText := by
  cases x with
  | inline x => cases x <;> rfl
  | block x => cases x <;> rfl

/-- **A node says the same if the lists below it do.** -/
theorem Node.text_mapLists {x : Node} (h : ∀ l ∈ x.lists, (l.map f g).text = l.text) :
    (x.mapLists f g).text = x.text := by
  rw [text_eq, text_eq, ownText_mapLists, lists_mapLists, List.map_map]
  exact congrArg (x.ownText ++ String.join ·) (List.map_congr_left h)

/-- **A document says the same if its topmost lists do.** -/
theorem Document.text_mapLists {d : Document} (h : ∀ l ∈ d.lists, (l.map f g).text = l.text) :
    (d.mapLists f g).text = d.text := by
  rw [text_eq, text_eq, lists_mapLists, List.map_map]
  exact congrArg String.join (List.map_congr_left h)

end Changes

end DeckFilter
