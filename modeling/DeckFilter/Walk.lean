import DeckFilter.Document.Traverse

/-!
# Walking a document

An editor is asked about every node, from the outside in and in reading order, and answers whether
the node stays, goes, or gives way to other nodes. The walk then goes on below the nodes that stand
there; nodes that an editor put in are not offered to it themselves, but what is below them is.

An editor may put in nodes without end, so a walk goes down at most as many lists as it is told,
and has no result if that is not far enough.

* `Edit`, `Editor`: the answers, and who gives them;
* `spliceM`: a list in which every element gives way to a list;
* `walkInlines`, `walkBlocks`, `Document.walk`: the walks.
-/

namespace DeckFilter

/-- What becomes of a node. -/
inductive Edit (α : Type) where
  | unchanged
  | delete
  | replace (nodes : List α)

/-- Who decides what becomes of the nodes, with a state of type `σ`. -/
structure Editor (σ : Type) where
  inline : Inline → StateM σ (Edit Inline)
  block : Block → StateM σ (Edit Block)

/-- The editor that leaves every node. -/
def Editor.idle (σ : Type) : Editor σ := ⟨fun _ => pure .unchanged, fun _ => pure .unchanged⟩

/-- A walk with a state: it may have no result. -/
abbrev Walk (σ α : Type) := StateT σ Option α

/-- Ask an editor. -/
def ask {σ α : Type} (question : StateM σ α) : Walk σ α := fun s => some (question.run s)

/-- The nodes that stand where a node stood. -/
def Edit.standing {α : Type} (node : α) : Edit α → List α
  | unchanged => [node]
  | delete => []
  | replace nodes => nodes

/-- Put in place of every element the list that `f` makes of it. -/
def spliceM {m : Type → Type} [Monad m] {α β : Type} (f : α → m (List β)) :
    List α → m (List β)
  | [] => pure []
  | x :: xs => do
    let ys ← f x
    let rest ← spliceM f xs
    pure (ys ++ rest)

variable {σ : Type} (r : Editor σ)

mutual

/-- Walk through a list of inlines and down at most `depth` lists. -/
def walkInlines : Nat → List Inline → Walk σ (List Inline)
  | 0, _ => failure
  | depth + 1, xs =>
    spliceM (fun x => do
      let answer ← ask (r.inline x)
      (answer.standing x).mapM (Inline.traverse (walkInlines depth) (walkBlocks depth))) xs

/-- Walk through a list of blocks and down at most `depth` lists. -/
def walkBlocks : Nat → List Block → Walk σ (List Block)
  | 0, _ => failure
  | depth + 1, xs =>
    spliceM (fun x => do
      let answer ← ask (r.block x)
      (answer.standing x).mapM (Block.traverse (walkInlines depth) (walkBlocks depth))) xs

end

/-- Walk through a document and down at most `depth` lists. -/
def Document.walk (depth : Nat) (d : Document) : Walk σ Document :=
  d.traverse (walkInlines r depth) (walkBlocks r depth)

end DeckFilter
