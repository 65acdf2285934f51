import DeckFilter.Proofs.Document.MapLists

/-!
# Walks without a state

When what becomes of a node does not depend on what came before it, a walk is a function: every node
gives way to what stands in its place, and so on in the lists below that.

* `Answers`: what stands in place of every node;
* `Answers.inlinesWithin`, `Answers.blocksWithin`, `Answers.askedWithin`: what becomes of lists, and
  the nodes that are asked about, so many lists down;
* `Answers.EndsWithin`, `Answers.Ends`: nothing stands further down, in one list or in all lists;
* `Answers.after`, `Answers.asked`, `Answers.document`: the same all the way down;
* `Answers.members_after`, `Answers.asked_eq`, `Answers.induction`: how they go on below a list;
* `Answers.exists_asked_of_mem_nodes`: where the nodes of a result come from.
-/

namespace DeckFilter

theorem NodeList.map_eq_of_members {f f' : List Inline → List Inline}
    {g g' : List Block → List Block} {l : NodeList}
    (h : (l.map f g).members = (l.map f' g').members) : l.map f g = l.map f' g' := by
  cases l with
  | inlines xs => exact congrArg _ (List.map_injective_iff.mpr (fun _ _ => Node.inline.inj) h)
  | blocks xs => exact congrArg _ (List.map_injective_iff.mpr (fun _ _ => Node.block.inj) h)

/-- What stands in place of every node, whatever came before it. -/
structure Answers where
  inline : Inline → List Inline
  block : Block → List Block

namespace Answers

variable (a : Answers)

/-- What stands in place of a node. -/
def standing : Node → List Node
  | .inline x => (a.inline x).map .inline
  | .block x => (a.block x).map .block

/-! ## So many lists down -/

mutual

/-- What becomes of a list of inlines and of what is below it, at most `depth` lists down. -/
def inlinesWithin : Nat → List Inline → List Inline
  | 0, _ => []
  | depth + 1, xs =>
    xs.flatMap fun x =>
      (a.inline x).map (Inline.mapLists (inlinesWithin depth) (blocksWithin depth))

/-- What becomes of a list of blocks and of what is below it, at most `depth` lists down. -/
def blocksWithin : Nat → List Block → List Block
  | 0, _ => []
  | depth + 1, xs =>
    xs.flatMap fun x => (a.block x).map (Block.mapLists (inlinesWithin depth) (blocksWithin depth))

end

/-- The nodes that are asked about at most `depth` lists down, in order. -/
def askedWithin : Nat → NodeList → List Node
  | 0, _ => []
  | depth + 1, l =>
    l.members.flatMap fun x =>
      x :: (a.standing x).flatMap fun y => y.lists.flatMap (askedWithin depth)

/-- Nothing stands more than `depth` lists down. -/
def EndsWithin : Nat → NodeList → Prop
  | 0, _ => False
  | depth + 1, l => ∀ x ∈ l.members, ∀ y ∈ a.standing x, ∀ l' ∈ y.lists, EndsWithin depth l'

variable {a} {n m : Nat} {l : NodeList}

theorem members_within_succ (n : Nat) (l : NodeList) :
    (l.map (a.inlinesWithin (n + 1)) (a.blocksWithin (n + 1))).members = l.members.flatMap fun x =>
      (a.standing x).map (Node.mapLists (a.inlinesWithin n) (a.blocksWithin n)) := by
  cases l with
  | inlines xs =>
    simp only [NodeList.map, NodeList.members, inlinesWithin, List.map_flatMap, List.flatMap_map,
      List.map_map, standing]
    rfl
  | blocks xs =>
    simp only [NodeList.map, NodeList.members, blocksWithin, List.map_flatMap, List.flatMap_map,
      List.map_map, standing]
    rfl

theorem EndsWithin.mono : ∀ {n m : Nat} {l : NodeList}, a.EndsWithin n l → n ≤ m →
    a.EndsWithin m l
  | 0, _, _, h, _ => h.elim
  | _ + 1, 0, _, _, hle => absurd hle (by omega)
  | _ + 1, _ + 1, _, h, hle => fun x hx y hy l' hl' =>
    (h x hx y hy l' hl').mono (Nat.le_of_succ_le_succ hle)

theorem within_eq {n m : Nat} {l : NodeList} (hn : a.EndsWithin n l) (hm : a.EndsWithin m l) :
    l.map (a.inlinesWithin n) (a.blocksWithin n) =
      l.map (a.inlinesWithin m) (a.blocksWithin m) := by
  -- the two go down together, and neither runs out before the list does
  induction n generalizing m l with
  | zero => exact hn.elim
  | succ n ih =>
    cases m with
    | zero => exact hm.elim
    | succ m =>
      refine NodeList.map_eq_of_members ?_
      rw [members_within_succ, members_within_succ]
      refine List.flatMap_congr fun x hx => List.map_congr_left fun y hy => ?_
      exact Node.mapLists_congr fun l' hl' => ih (hn x hx y hy l' hl') (hm x hx y hy l' hl')

theorem askedWithin_eq {n m : Nat} {l : NodeList} (hn : a.EndsWithin n l) (hm : a.EndsWithin m l) :
    a.askedWithin n l = a.askedWithin m l := by
  induction n generalizing m l with
  | zero => exact hn.elim
  | succ n ih =>
    cases m with
    | zero => exact hm.elim
    | succ m =>
      rw [askedWithin, askedWithin]
      refine List.flatMap_congr fun x hx => congrArg (x :: ·) ?_
      refine List.flatMap_congr fun y hy => List.flatMap_congr fun l' hl' => ?_
      exact ih (hn x hx y hy l' hl') (hm x hx y hy l' hl')

theorem endsWithin_of_height_le (h : ∀ x, ∀ y ∈ a.standing x, ∀ l ∈ y.lists,
    l.height ≤ x.height ∨ ∀ n, a.EndsWithin (n + 1) l) {n : Nat} {l : NodeList}
    (hl : l.height ≤ n) : a.EndsWithin (n + 1) l := by
  induction n generalizing l with
  | zero =>
    intro x hx
    have := NodeList.height_lt_of_mem hx
    omega
  | succ n ih =>
    intro x hx y hy l' hl'
    have hlt := NodeList.height_lt_of_mem hx
    rcases h x y hy l' hl' with hle | hends
    · exact ih (by omega)
    · exact hends n

/-! ## All the way down -/

variable (a) in
/-- No list goes down further than its height. -/
def Ends : Prop := ∀ l : NodeList, a.EndsWithin (l.height + 1) l

variable (a) in
/-- What becomes of a list of inlines and of what is below it. -/
def inlinesAfter (xs : List Inline) : List Inline := a.inlinesWithin (inlinesHeight xs + 1) xs

variable (a) in
/-- What becomes of a list of blocks and of what is below it. -/
def blocksAfter (xs : List Block) : List Block := a.blocksWithin (blocksHeight xs + 1) xs

variable (a) in
/-- What becomes of a list and of what is below it. -/
def after (l : NodeList) : NodeList := l.map a.inlinesAfter a.blocksAfter

variable (a) in
/-- The nodes that are asked about in a list and below it, in order. -/
def asked (l : NodeList) : List Node := a.askedWithin (l.height + 1) l

variable (a) in
/-- What becomes of a document. -/
def document (d : Document) : Document := d.mapLists a.inlinesAfter a.blocksAfter

theorem nodes_document (d : Document) :
    (a.document d).nodes = d.lists.flatMap fun l => (a.after l).nodes := by
  rw [Document.nodes, document, Document.lists_mapLists, List.flatMap_map]
  rfl

theorem after_eq_within (h : a.EndsWithin n l) (hl : a.EndsWithin (l.height + 1) l) :
    l.map (a.inlinesWithin n) (a.blocksWithin n) = a.after l := by
  rw [within_eq h hl]
  cases l <;> rfl

section Equations

variable (ha : a.Ends)

include ha

/-- **Every node of a list gives way to what stands in its place, and so on below that.** -/
theorem members_after (l : NodeList) : (a.after l).members = l.members.flatMap fun x =>
    (a.standing x).map (Node.mapLists a.inlinesAfter a.blocksAfter) := by
  have hl := ha l
  rw [← after_eq_within hl hl, members_within_succ]
  refine List.flatMap_congr fun x hx => List.map_congr_left fun y hy => ?_
  exact Node.mapLists_congr fun l' hl' => after_eq_within (hl x hx y hy l' hl') (ha l')

/-- **Every node of a list is asked about, and then what is below what stands in its place.** -/
theorem asked_eq (l : NodeList) : a.asked l = l.members.flatMap fun x =>
    x :: (a.standing x).flatMap fun y => y.lists.flatMap a.asked := by
  have hl := ha l
  rw [asked, askedWithin]
  refine List.flatMap_congr fun x hx => congrArg (x :: ·) ?_
  refine List.flatMap_congr fun y hy => List.flatMap_congr fun l' hl' => ?_
  exact askedWithin_eq (hl x hx y hy l' hl') (ha l')

theorem inlinesAfter_eq (xs : List Inline) : a.inlinesAfter xs =
    xs.flatMap fun x => (a.inline x).map (Inline.mapLists a.inlinesAfter a.blocksAfter) := by
  refine List.map_injective_iff.mpr (fun _ _ => Node.inline.inj) ?_
  have h : (a.inlinesAfter xs).map Node.inline = _ := members_after ha (.inlines xs)
  simp only [h, NodeList.members, standing, List.map_flatMap, List.flatMap_map, List.map_map]
  rfl

theorem blocksAfter_eq (xs : List Block) : a.blocksAfter xs =
    xs.flatMap fun x => (a.block x).map (Block.mapLists a.inlinesAfter a.blocksAfter) := by
  refine List.map_injective_iff.mpr (fun _ _ => Node.block.inj) ?_
  have h : (a.blocksAfter xs).map Node.block = _ := members_after ha (.blocks xs)
  simp only [h, NodeList.members, standing, List.map_flatMap, List.flatMap_map, List.map_map]
  rfl

theorem inlinesAfter_append (xs ys : List Inline) :
    a.inlinesAfter (xs ++ ys) = a.inlinesAfter xs ++ a.inlinesAfter ys := by
  rw [inlinesAfter_eq ha, List.flatMap_append, ← inlinesAfter_eq ha, ← inlinesAfter_eq ha]

theorem blocksAfter_append (xs ys : List Block) :
    a.blocksAfter (xs ++ ys) = a.blocksAfter xs ++ a.blocksAfter ys := by
  rw [blocksAfter_eq ha, List.flatMap_append, ← blocksAfter_eq ha, ← blocksAfter_eq ha]

theorem asked_inlines_append (xs ys : List Inline) :
    a.asked (.inlines (xs ++ ys)) = a.asked (.inlines xs) ++ a.asked (.inlines ys) := by
  rw [asked_eq ha, asked_eq ha (.inlines xs), asked_eq ha (.inlines ys), NodeList.members,
    List.map_append, List.flatMap_append]
  rfl

theorem asked_blocks_append (xs ys : List Block) :
    a.asked (.blocks (xs ++ ys)) = a.asked (.blocks xs) ++ a.asked (.blocks ys) := by
  rw [asked_eq ha, asked_eq ha (.blocks xs), asked_eq ha (.blocks ys), NodeList.members,
    List.map_append, List.flatMap_append]
  rfl

theorem induction {P : NodeList → Prop} (step : ∀ l : NodeList,
    (∀ x ∈ l.members, ∀ y ∈ a.standing x, ∀ l' ∈ y.lists, P l') → P l) (l : NodeList) : P l := by
  have hends : ∀ (n : Nat) (l : NodeList), a.EndsWithin n l → P l := by
    intro n
    induction n with
    | zero => exact fun l h => h.elim
    | succ n ih => exact fun l h => step l fun x hx y hy l' hl' => ih l' (h x hx y hy l' hl')
  exact hends _ l (ha l)

/-- **Every node of a result stands there in place of a node that was asked about.** -/
theorem exists_asked_of_mem_nodes {l : NodeList} {z : Node} (hz : z ∈ (a.after l).nodes) :
    ∃ x ∈ a.asked l, ∃ y ∈ a.standing x, z = y.mapLists a.inlinesAfter a.blocksAfter := by
  induction l using induction ha with
  | step l ih =>
    rw [NodeList.nodes_eq, members_after ha, List.flatMap_assoc] at hz
    obtain ⟨x, hx, hz⟩ := List.mem_flatMap.mp hz
    obtain ⟨y', hy', hz⟩ := List.mem_flatMap.mp hz
    obtain ⟨y, hy, rfl⟩ := List.mem_map.mp hy'
    rw [asked_eq ha]
    rcases List.mem_cons.mp hz with rfl | hz
    · exact ⟨x, List.mem_flatMap.mpr ⟨x, hx, List.mem_cons_self⟩, y, hy, rfl⟩
    · rw [Node.lists_mapLists, List.flatMap_map] at hz
      obtain ⟨l', hl', hz⟩ := List.mem_flatMap.mp hz
      obtain ⟨x', hx', h⟩ := ih x hx y hy l' hl' hz
      have hbelow : x' ∈ (a.standing x).flatMap fun y => y.lists.flatMap a.asked :=
        List.mem_flatMap.mpr ⟨y, hy, List.mem_flatMap.mpr ⟨l', hl', hx'⟩⟩
      exact ⟨x', List.mem_flatMap.mpr ⟨x, hx, List.mem_cons_of_mem x hbelow⟩, h⟩

/-- **Every node of a changed document stands there in place of a node that was asked about.** -/
theorem exists_asked_of_mem_document {d : Document} {z : Node} (hz : z ∈ (a.document d).nodes) :
    ∃ x ∈ d.lists.flatMap a.asked,
      ∃ y ∈ a.standing x, z = y.mapLists a.inlinesAfter a.blocksAfter := by
  rw [nodes_document] at hz
  obtain ⟨l, hl, hz⟩ := List.mem_flatMap.mp hz
  obtain ⟨x, hx, h⟩ := exists_asked_of_mem_nodes ha hz
  exact ⟨x, List.mem_flatMap.mpr ⟨l, hl, hx⟩, h⟩

end Equations

/-! ## Changes that make no difference -/

section Absorb

variable {b : Answers} {change : Node → Node} (ha : a.Ends) (hb : b.Ends)
  (hchange : ∀ x, b.standing x = [change x])
  (habsorb : ∀ x, a.standing ((change x).mapLists b.inlinesAfter b.blocksAfter) =
    (a.standing x).map (Node.mapLists b.inlinesAfter b.blocksAfter))

theorem after_after_eq_map (a b : Answers) (l : NodeList) : a.after (b.after l) =
    l.map (a.inlinesAfter ∘ b.inlinesAfter) (a.blocksAfter ∘ b.blocksAfter) := by
  cases l <;> rfl

include ha hb hchange habsorb

/-- **If every node gives way to the same after a change of the node, up to the change below, a list
gives way to the same after all changes in it.** -/
theorem after_after (l : NodeList) : a.after (b.after l) = a.after l := by
  induction l using induction ha with
  | step l ih =>
    rw [after_after_eq_map]
    refine NodeList.map_eq_of_members ?_
    change _ = (a.after l).members
    rw [← after_after_eq_map, members_after ha, members_after hb, members_after ha,
      List.flatMap_assoc]
    refine List.flatMap_congr fun x hx => ?_
    rw [hchange, List.map_singleton, List.flatMap_singleton, habsorb, List.map_map]
    -- both sides have the same nodes in place of `x`, and on the left the lists below are changed
    refine List.map_congr_left fun y hy => ?_
    rw [Function.comp_apply, Node.mapLists_mapLists]
    refine Node.mapLists_congr fun l' hl' => ?_
    rw [← after_after_eq_map]
    exact ih x hx y hy l' hl'

/-- **The changed nodes are asked about instead**, one for one. -/
theorem asked_after (l : NodeList) : a.asked (b.after l) =
    (a.asked l).map fun x => (change x).mapLists b.inlinesAfter b.blocksAfter := by
  induction l using induction ha with
  | step l ih =>
    rw [asked_eq ha, asked_eq ha l, members_after hb, List.flatMap_assoc, List.map_flatMap]
    refine List.flatMap_congr fun x hx => ?_
    rw [hchange, List.map_singleton, List.flatMap_singleton, habsorb, List.map_cons,
      List.flatMap_map, List.map_flatMap]
    refine congrArg (_ :: ·) (List.flatMap_congr fun y hy => ?_)
    rw [Node.lists_mapLists, List.flatMap_map, List.map_flatMap]
    exact List.flatMap_congr fun l' hl' => ih x hx y hy l' hl'

/-- **A document becomes the same after all changes in it.** -/
theorem document_document (d : Document) : a.document (b.document d) = a.document d := by
  rw [document, document, Document.mapLists_mapLists]
  refine Document.mapLists_congr fun l _ => ?_
  rw [← after_after_eq_map]
  exact after_after ha hb hchange habsorb l

end Absorb

end Answers

end DeckFilter
