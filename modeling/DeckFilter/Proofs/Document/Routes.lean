import DeckFilter.Proofs.Document.MapLists

/-!
# Where lists stand

A list of nodes has its place in a document: one of the topmost lists, and from there, again and
again, a node and a list below that node. Lists of two documents correspond if they stand at the
same place.

* `Route`, `NodeList.at?`, `Document.at?`: places, and the lists there;
* `Block.bare`, `Document.bare`: what there is to a block or a document besides its lists;
* `NodeList.bareBlocks?`: a list of blocks, each without what is below it.
-/

namespace DeckFilter

/-- The way down from a list: the number of a node in it, and the number of a list below that node,
again and again. -/
abbrev Route := List (Nat × Nat)

/-- The list at the end of a route. -/
def NodeList.at? : NodeList → Route → Option NodeList
  | l, [] => some l
  | l, (i, j) :: route => do
    let x ← l.members[i]?
    let below ← x.lists[j]?
    below.at? route

/-- The list at the end of a route from one of the topmost lists of a document. -/
def Document.at? (d : Document) (place : Nat × Route) : Option NodeList := do
  let l ← d.lists[place.1]?
  l.at? place.2

theorem NodeList.at?_cons (l : NodeList) (i j : Nat) (route : Route) :
    l.at? ((i, j) :: route) =
      (l.members[i]?).bind fun x => (x.lists[j]?).bind fun below => below.at? route := rfl

theorem NodeList.at?_cons_of_leaves {l : NodeList} (h : ∀ x ∈ l.members, x.lists = [])
    (step : Nat × Nat) (route : Route) : l.at? (step :: route) = none := by
  refine Option.bind_eq_none_iff.mpr fun x hx => ?_
  rw [h x (List.mem_of_getElem? hx), List.getElem?_nil]
  rfl

/-! ## Without what is below -/

/-- A block without the content of the lists below it. -/
def Block.bare (x : Block) : Block := x.mapLists (fun _ => []) fun _ => []

/-- A document without the content of its topmost lists: its version, the keys and the shape of its
metadata. -/
def Document.bare (d : Document) : Document := d.mapLists (fun _ => []) fun _ => []

/-- The blocks of a list, each without what is below it. -/
def NodeList.bareBlocks? : NodeList → Option (List Block)
  | blocks content => some (content.map Block.bare)
  | inlines _ => none

theorem Block.bare_mapLists (f : List Inline → List Inline) (g : List Block → List Block)
    (x : Block) : (x.mapLists f g).bare = x.bare := x.mapLists_mapLists f _ g _

theorem Document.bare_mapLists (f : List Inline → List Inline) (g : List Block → List Block)
    (d : Document) : (d.mapLists f g).bare = d.bare := d.mapLists_mapLists f _ g _

end DeckFilter
