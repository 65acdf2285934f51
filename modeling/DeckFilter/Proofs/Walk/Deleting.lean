import DeckFilter.Proofs.Walk.Places
import DeckFilter.Proofs.Walk.Steady

/-!
# Deleting nodes by their tags

An editor that deletes every node with one of some tags, and leaves all others, is asked about every
node that has no such ancestor. So the nodes that are left are those whose whole lineage has other
tags, and nothing but the lists that had such nodes is different.

* `Editor.deleting`: the editor, with its answers `Answers.deleting`;
* `Document.lineages`: all nodes, each with its ancestors;
* `Document.Without`: a document without the nodes that have one of some tags;
* `Answers.nodes_after_deleting`: the nodes that are left of a list;
* `Document.walk_deleting`: the walk of a document.
-/

namespace DeckFilter

variable {σ : Type}

/-! ## Tags and lineages -/

/-- The tag of a node. -/
def Node.tag : Node → String
  | inline x => x.tag
  | block x => x.tag

/-- A node without the content of the lists below it. -/
def Node.bare (x : Node) : Node := x.mapLists (fun _ => []) fun _ => []

theorem Node.bare_mapLists (f : List Inline → List Inline) (g : List Block → List Block)
    (x : Node) : (x.mapLists f g).bare = x.bare := x.mapLists_mapLists f _ g _

theorem Node.tag_mapLists (f : List Inline → List Inline) (g : List Block → List Block)
    (x : Node) : (x.mapLists f g).tag = x.tag := by
  cases x with
  | inline x => exact x.tag_mapLists f g
  | block x => exact x.tag_mapLists f g

/-- The nodes of a list and all nodes below them, every node before those below it, each with its
ancestors from the inside out. -/
def NodeList.lineages (ancestors : List Node) (l : NodeList) : List (Node × List Node) :=
  l.members.attach.flatMap fun x => (x.1, ancestors) ::
    x.1.lists.attach.flatMap fun l' => l'.1.lineages (x.1 :: ancestors)
termination_by l.height
decreasing_by exact NodeList.height_lt_of_mem_lists x.2 l'.2

/-- All nodes of a document, metadata first, each with its ancestors. -/
def Document.lineages (d : Document) : List (Node × List Node) :=
  d.lists.flatMap (NodeList.lineages [])

theorem NodeList.lineages_eq (ancestors : List Node) (l : NodeList) : l.lineages ancestors =
    l.members.flatMap fun x =>
      (x, ancestors) :: x.lists.flatMap (NodeList.lineages (x :: ancestors)) := by
  rw [NodeList.lineages]
  simp only [List.flatMap_subtype, List.unattach_attach]

/-- Neither a node nor one of its ancestors has one of the tags. -/
def spared (tags : List String) (lineage : Node × List Node) : Bool :=
  lineage.1.tag ∉ tags && lineage.2.all fun x => x.tag ∉ tags

/-- `d'` is the document `d` without the nodes that have one of the tags. -/
structure Document.Without (tags : List String) (d d' : Document) : Prop where
  /-- No list, however deep and wherever it stands, has such a node. -/
  absent : ∀ (place : Nat × Route) (l : NodeList), d'.at? place = some l →
    ∀ x ∈ l.members, x.tag ∉ tags
  /-- The nodes are those that have no such tag and no ancestor with one, in order. -/
  nodes : d'.nodes.map Node.bare =
    (d.lineages.filter (spared tags)).map fun lineage => lineage.1.bare
  /-- Besides the topmost lists, nothing is different. -/
  bare : d'.bare = d.bare
  /-- Every list is without its nodes that have such a tag, and nothing else in a node is
  different but the lists below it. -/
  lists : ∃ (f : List Inline → List Inline) (g : List Block → List Block),
    (∀ xs, f xs = (xs.filter fun x => x.tag ∉ tags).map (Inline.mapLists f g)) ∧
      (∀ xs, g xs = (xs.filter fun x => x.tag ∉ tags).map (Block.mapLists f g)) ∧
        d' = d.mapLists f g

/-! ## The editor -/

/-- The editor that deletes the nodes with one of the tags. -/
def Editor.deleting (σ : Type) (tags : List String) : Editor σ where
  inline x := pure (if x.tag ∈ tags then .delete else .unchanged)
  block x := pure (if x.tag ∈ tags then .delete else .unchanged)

namespace Answers

/-- Nothing stands in place of a node with one of the tags, and all others stay. -/
def deleting (tags : List String) : Answers where
  inline x := if x.tag ∈ tags then [] else [x]
  block x := if x.tag ∈ tags then [] else [x]

variable {tags : List String}

theorem standing_deleting_of_mem {x : Node} (h : x.tag ∈ tags) :
    (deleting tags).standing x = [] := by
  cases x <;> exact (congrArg (List.map _) (if_pos h)).trans List.map_nil

theorem standing_deleting_of_not_mem {x : Node} (h : x.tag ∉ tags) :
    (deleting tags).standing x = [x] := by
  cases x <;> exact (congrArg (List.map _) (if_neg h)).trans List.map_singleton

theorem eq_of_mem_standing_deleting {x y : Node} (h : y ∈ (deleting tags).standing x) :
    y = x ∧ x.tag ∉ tags := by
  by_cases hx : x.tag ∈ tags
  · rw [standing_deleting_of_mem hx] at h
    cases h
  · rw [standing_deleting_of_not_mem hx] at h
    exact ⟨List.mem_singleton.mp h, hx⟩

theorem endsWithin_deleting {n : Nat} {l : NodeList} (h : l.height ≤ n) :
    (deleting tags).EndsWithin (n + 1) l := by
  refine endsWithin_of_height_le (fun x y hy l' hl' => Or.inl ?_) h
  obtain ⟨rfl, -⟩ := eq_of_mem_standing_deleting hy
  exact y.height_le.mp (Nat.le_refl _) l' hl'

theorem ends_deleting : (deleting tags).Ends := fun l => endsWithin_deleting (Nat.le_refl l.height)

theorem steady_deleting : (Editor.deleting σ tags).Steady (deleting tags) (fun s _ => s)
    fun _ => True where
  inline x s _ := by
    refine ⟨?_, rfl⟩
    change Edit.standing x (if x.tag ∈ tags then .delete else .unchanged) =
      if x.tag ∈ tags then [] else [x]
    split <;> rfl
  block x s _ := by
    refine ⟨?_, rfl⟩
    change Edit.standing x (if x.tag ∈ tags then .delete else .unchanged) =
      if x.tag ∈ tags then [] else [x]
    split <;> rfl
  ok _ _ _ := trivial

/-! ## What is left -/

theorem tag_not_mem_of_mem_after {l : NodeList} {x : Node}
    (h : x ∈ ((deleting tags).after l).members) : x.tag ∉ tags := by
  rw [members_after ends_deleting] at h
  obtain ⟨z, -, h⟩ := List.mem_flatMap.mp h
  obtain ⟨y, hy, rfl⟩ := List.mem_map.mp h
  obtain ⟨rfl, hy⟩ := eq_of_mem_standing_deleting hy
  rwa [Node.tag_mapLists]

theorem filter_lineages_of_tagged {ancestors : List Node} (h : ∃ x ∈ ancestors, x.tag ∈ tags)
    (l : NodeList) : (l.lineages ancestors).filter (spared tags) = [] := by
  induction l using NodeList.induction generalizing ancestors with
  | step l ih =>
    rw [NodeList.lineages_eq, List.filter_flatMap, List.flatMap_eq_nil_iff]
    intro x hx
    have hspared : spared tags (x, ancestors) = false := by
      rw [spared, Bool.and_eq_false_iff, List.all_eq_false]
      simpa using Or.inr h
    obtain ⟨y, hy, htag⟩ := h
    rw [List.filter_cons_of_neg (by simp [hspared]), List.filter_flatMap, List.flatMap_eq_nil_iff]
    exact fun l' hl' => ih x hx l' hl' ⟨y, List.mem_cons_of_mem x hy, htag⟩

/-- **What is left of the nodes of a list below nodes that stay**: the nodes that are spared, each
with what is left below it. -/
theorem nodes_after_deleting {ancestors : List Node} (h : ∀ x ∈ ancestors, x.tag ∉ tags)
    (l : NodeList) : ((deleting tags).after l).nodes.map Node.bare =
      ((l.lineages ancestors).filter (spared tags)).map fun lineage => lineage.1.bare := by
  induction l using NodeList.induction generalizing ancestors with
  | step l ih =>
    rw [nodes_after ends_deleting, NodeList.lineages_eq, List.map_flatMap, List.filter_flatMap,
      List.map_flatMap]
    refine List.flatMap_congr fun x hx => ?_
    by_cases htag : x.tag ∈ tags
    · -- the node goes, and with it what is below it
      have hspared : spared tags (x, ancestors) = false := by simp [spared, htag]
      have hlineage : ∃ y ∈ x :: ancestors, y.tag ∈ tags := ⟨x, List.mem_cons_self, htag⟩
      rw [standing_deleting_of_mem htag, List.filter_cons_of_neg (by simp [hspared]),
        List.filter_flatMap,
        List.flatMap_eq_nil_iff.mpr fun l' _ => filter_lineages_of_tagged hlineage l']
      rfl
    · have hspared : spared tags (x, ancestors) = true := by simpa [spared, htag] using h
      have hlineage : ∀ y ∈ x :: ancestors, y.tag ∉ tags := List.forall_mem_cons.mpr ⟨htag, h⟩
      rw [standing_deleting_of_not_mem htag, List.flatMap_singleton, List.map_cons,
        List.map_flatMap, List.filter_cons_of_pos hspared, List.filter_flatMap, List.map_cons,
        List.map_flatMap, Node.bare_mapLists]
      exact congrArg (x.bare :: ·) (List.flatMap_congr fun l' hl' => ih x hx l' hl' hlineage)

theorem flatMap_map_ite {α β : Type} (p : α → Prop) [DecidablePred p] (f : α → β) (xs : List α) :
    (xs.flatMap fun x => (if p x then [] else [x]).map f) = (xs.filter fun x => ¬p x).map f := by
  induction xs with
  | nil => rfl
  | cons x xs ih =>
    rw [List.flatMap_cons, ih, List.filter_cons]
    by_cases h : p x <;> simp [h]

theorem inlinesAfter_deleting (xs : List Inline) : (deleting tags).inlinesAfter xs =
    (xs.filter fun x => x.tag ∉ tags).map
      (Inline.mapLists (deleting tags).inlinesAfter (deleting tags).blocksAfter) := by
  rw [inlinesAfter_eq ends_deleting]
  exact flatMap_map_ite (Inline.tag · ∈ tags) _ xs

theorem blocksAfter_deleting (xs : List Block) : (deleting tags).blocksAfter xs =
    (xs.filter fun x => x.tag ∉ tags).map
      (Block.mapLists (deleting tags).inlinesAfter (deleting tags).blocksAfter) := by
  rw [blocksAfter_eq ends_deleting]
  exact flatMap_map_ite (Block.tag · ∈ tags) _ xs

theorem without_deleting (tags : List String) (d : Document) :
    d.Without tags ((deleting tags).document d) where
  absent place l hplace x hx := by
    obtain ⟨l₀, rfl, -⟩ := exists_asked_of_document_at? ends_deleting hplace
    exact tag_not_mem_of_mem_after hx
  nodes := by
    rw [nodes_document, Document.lineages, List.map_flatMap, List.filter_flatMap, List.map_flatMap]
    exact List.flatMap_congr fun l _ => nodes_after_deleting (List.forall_mem_nil _) l
  bare := d.bare_mapLists _ _
  lists := ⟨_, _, inlinesAfter_deleting, blocksAfter_deleting, rfl⟩

theorem document_deleting_nil (d : Document) : (deleting []).document d = d :=
  document_eq_self ends_deleting fun _ _ => standing_deleting_of_not_mem List.not_mem_nil

end Answers

/-! ## Documents -/

theorem Document.walk_deleting_eq (tags : List String) (d : Document) (more : Nat) (s : σ) :
    (d.walk (Editor.deleting σ tags) (d.height + 1 + more)).run s =
      some ((Answers.deleting tags).document d, s) := by
  have hends : ∀ l ∈ d.lists, (Answers.deleting tags).EndsWithin (d.height + 1 + more) l :=
    fun l hl => (Answers.endsWithin_deleting (d.height_le.mp (Nat.le_refl _) l hl)).mono
      (Nat.le_add_right _ _)
  have hwalk := Document.walk_yields Answers.steady_deleting Answers.ends_deleting hends s trivial
  rw [hwalk.1, List.foldl_fixed]

/-- **Deleting by tags takes out the nodes with these tags and what is below them, and nothing
else**: of any document, whatever the tags are and however far the walk may go down; without a tag,
the document stays as it is. -/
theorem Document.walk_deleting (tags : List String) (d : Document) (more : Nat) (s : σ) :
    (∃ d', (d.walk (Editor.deleting σ tags) (d.height + 1 + more)).run s = some (d', s) ∧
      d.Without tags d') ∧
      (d.walk (Editor.deleting σ []) (d.height + 1 + more)).run s = some (d, s) := by
  refine ⟨⟨_, d.walk_deleting_eq tags more s, Answers.without_deleting tags d⟩, ?_⟩
  rw [walk_deleting_eq, Answers.document_deleting_nil]

end DeckFilter
