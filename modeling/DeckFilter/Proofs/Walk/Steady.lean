import DeckFilter.Proofs.Walk.Answers
import DeckFilter.Walk

/-!
# Steady editors

An editor is steady if its answers do not depend on its state, as long as the state stays in order,
and neither does what they do to the state. Its walks have the result of a walk without a state, and
their effect on the state is that of the nodes that are asked about, one after the other.

* `Editor.Steady`: the editors;
* `Walk.Yields`: the result of a walk and the nodes it asks about;
* `Inline.traverse_yields`, `Block.traverse_yields`, `Document.traverse_yields`: one level down;
* `walkLists_yield`, `Document.walk_yields`: walks.
-/

namespace DeckFilter

variable {σ : Type}

/-- In all states that are in order, the answers of the editor are `a`, and each changes the state
by the `effect` of its node, which keeps it in order. -/
structure Editor.Steady (r : Editor σ) (a : Answers) (effect : σ → Node → σ) (ok : σ → Prop) :
    Prop where
  inline : ∀ (x : Inline) (s : σ), ok s → ((r.inline x).run s).1.standing x = a.inline x ∧
    ((r.inline x).run s).2 = effect s (.inline x)
  block : ∀ (x : Block) (s : σ), ok s → ((r.block x).run s).1.standing x = a.block x ∧
    ((r.block x).run s).2 = effect s (.block x)
  ok : ∀ (s : σ) (x : Node), ok s → ok (effect s x)

/-! ## Results -/

section Yields

variable (effect : σ → Node → σ) (ok : σ → Prop)

/-- In all states that are in order, the walk has the result `x` and the effect of the nodes
`asked`. -/
def Walk.Yields {α : Type} (w : Walk σ α) (x : α) (asked : List Node) : Prop :=
  ∀ s, ok s → w.run s = some (x, asked.foldl effect s) ∧ ok (asked.foldl effect s)

variable {effect ok} {α β : Type}

theorem Walk.Yields.pure (x : α) : Walk.Yields effect ok (Pure.pure x) x [] := by
  intro s hs
  exact ⟨rfl, hs⟩

theorem Walk.Yields.bind {w : Walk σ α} {f : α → Walk σ β} {x : α} {y : β} {l l' : List Node}
    (h : w.Yields effect ok x l) (hf : (f x).Yields effect ok y l') :
    Walk.Yields effect ok (w >>= f) y (l ++ l') := by
  intro s hs
  obtain ⟨hw, hs⟩ := h s hs
  rw [StateT.run_bind, hw, List.foldl_append]
  exact hf _ hs

theorem Walk.Yields.map {w : Walk σ α} {x : α} {l : List Node} (h : w.Yields effect ok x l)
    (f : α → β) : Walk.Yields effect ok (f <$> w) (f x) l := by
  rw [map_eq_pure_bind]
  have := h.bind (f := fun x => Pure.pure (f x)) (.pure (f x))
  rwa [List.append_nil] at this

theorem Walk.Yields.mapM {f : α → Walk σ β} {F : α → β} {N : α → List Node} {xs : List α}
    (h : ∀ x ∈ xs, (f x).Yields effect ok (F x) (N x)) :
    Walk.Yields effect ok (xs.mapM f) (xs.map F) (xs.flatMap N) := by
  induction xs with
  | nil => exact .pure []
  | cons x xs ih =>
    rw [List.mapM_cons, List.flatMap_cons]
    obtain ⟨hx, hxs⟩ := List.forall_mem_cons.mp h
    exact hx.bind ((ih hxs).map (F x :: ·))

theorem Walk.Yields.optionMapM {f : α → Walk σ β} {F : α → β} {N : α → List Node} {x : Option α}
    (h : ∀ y ∈ x, (f y).Yields effect ok (F y) (N y)) :
    Walk.Yields effect ok (x.mapM f) (x.map F) (x.toList.flatMap N) := by
  cases x with
  | none => exact .pure none
  | some y =>
    rw [Option.mapM_some, Option.toList_some, List.flatMap_singleton]
    exact (h y rfl).map some

theorem Walk.Yields.splice {f : α → Walk σ (List β)} {F : α → List β} {N : α → List Node}
    {xs : List α} (h : ∀ x ∈ xs, (f x).Yields effect ok (F x) (N x)) :
    Walk.Yields effect ok (spliceM f xs) (xs.flatMap F) (xs.flatMap N) := by
  induction xs with
  | nil => exact .pure []
  | cons x xs ih =>
    rw [List.flatMap_cons, List.flatMap_cons]
    obtain ⟨hx, hxs⟩ := List.forall_mem_cons.mp h
    exact hx.bind ((ih hxs).map (F x ++ ·))

theorem Walk.Yields.ask {question : StateM σ α} {y : β} {x : Node}
    {w : α → Walk σ β} {l : List Node}
    (h : ∀ s, ok s → (question.run s).2 = effect s x ∧ ok (effect s x) ∧
      (w (question.run s).1).Yields effect ok y l) :
    Walk.Yields effect ok (ask question >>= w) y (x :: l) := by
  intro s hs
  obtain ⟨heffect, hok, hw⟩ := h s hs
  rw [← heffect] at hok
  rw [List.foldl_cons, ← heffect]
  exact hw _ hok

end Yields

/-! ## One level down -/

section Parts

variable {effect : σ → Node → σ} {ok : σ → Prop} {inlines : List Inline → Walk σ (List Inline)}
  {blocks : List Block → Walk σ (List Block)} {f : List Inline → List Inline}
  {g : List Block → List Block} {asked : NodeList → List Node}

variable (effect ok inlines blocks f g asked) in
/-- The walk of a list has the result of the function for its kind. -/
def NodeList.Yields : NodeList → Prop
  | .inlines xs => (inlines xs).Yields effect ok (f xs) (asked (.inlines xs))
  | .blocks xs => (blocks xs).Yields effect ok (g xs) (asked (.blocks xs))

theorem NodeList.Yields.congr {f' : List Inline → List Inline} {g' : List Block → List Block}
    {asked' : NodeList → List Node} {l : NodeList}
    (h : l.Yields effect ok inlines blocks f g asked) (hmap : l.map f g = l.map f' g')
    (hasked : asked l = asked' l) : l.Yields effect ok inlines blocks f' g' asked' := by
  cases l with
  | inlines xs => rwa [NodeList.Yields, ← NodeList.map_inlines_inj hmap, ← hasked]
  | blocks xs => rwa [NodeList.Yields, ← NodeList.map_blocks_inj hmap, ← hasked]

theorem Citation.traverse_yields {c : Citation Inline}
    (h : ∀ l ∈ c.lists, l.Yields effect ok inlines blocks f g asked) :
    (c.traverse inlines).Yields effect ok (c.mapLists f) (c.lists.flatMap asked) := by
  have hbefore : (inlines c.before).Yields effect ok _ _ := h (.inlines c.before) (by simp [lists])
  have hafter : (inlines c.after).Yields effect ok _ _ := h (.inlines c.after) (by simp [lists])
  exact hbefore.bind (hafter.bind (.pure _))

theorem Caption.traverse_yields {c : Caption Inline Block}
    (h : ∀ l ∈ c.lists, l.Yields effect ok inlines blocks f g asked) :
    (c.traverse inlines blocks).Yields effect ok (c.mapLists f g) (c.lists.flatMap asked) := by
  have hshort : (c.short.mapM inlines).Yields effect ok _ _ := .optionMapM fun xs hxs =>
    h (.inlines xs) (by simp [lists, Option.mem_def.mp hxs])
  have hlong : (c.long.mapM blocks).Yields effect ok _ _ := .optionMapM fun xs hxs =>
    h (.blocks xs) (by simp [lists, Option.mem_def.mp hxs])
  have : (c.traverse inlines blocks).Yields effect ok (c.mapLists f g) _ :=
    hshort.bind (hlong.bind (.pure _))
  simpa [lists, Option.toList_map, List.flatMap_map] using this

theorem Row.traverse_yields {r : Row Block}
    (h : ∀ l ∈ r.lists, l.Yields effect ok inlines blocks f g asked) :
    (r.traverse blocks).Yields effect ok (r.mapLists g) (r.lists.flatMap asked) := by
  have hcell : ∀ c ∈ r.cells, (c.traverse blocks).Yields effect ok (c.mapLists g)
      (asked (.blocks c.content)) := by
    intro c hc
    have hcontent : (blocks c.content).Yields effect ok _ _ := h _ (List.mem_map_of_mem hc)
    exact hcontent.map fun content => { c with content }
  rw [lists, List.flatMap_map]
  exact (Walk.Yields.mapM hcell).map fun cells => { r with cells }

theorem rows_yield {rows : List (Row Block)}
    (h : ∀ l ∈ rows.flatMap Row.lists, l.Yields effect ok inlines blocks f g asked) :
    Walk.Yields effect ok (rows.mapM (Row.traverse blocks)) (rows.map (Row.mapLists g))
      ((rows.flatMap Row.lists).flatMap asked) := by
  rw [List.flatMap_assoc]
  exact .mapM fun r hr => Row.traverse_yields fun l hl => h l (List.mem_flatMap.mpr ⟨r, hr, hl⟩)

theorem TableEnd.traverse_yields {t : TableEnd Block}
    (h : ∀ l ∈ t.lists, l.Yields effect ok inlines blocks f g asked) :
    (t.traverse blocks).Yields effect ok (t.mapLists g) (t.lists.flatMap asked) :=
  (rows_yield h).map fun rows : List (Row Block) => ({ t with rows } : TableEnd Block)

theorem TableBody.traverse_yields {t : TableBody Block}
    (h : ∀ l ∈ t.lists, l.Yields effect ok inlines blocks f g asked) :
    (t.traverse blocks).Yields effect ok (t.mapLists g) (t.lists.flatMap asked) := by
  obtain ⟨hhead, hrows⟩ := List.forall_mem_append.mp h
  rw [lists, List.flatMap_append]
  exact (rows_yield hhead).bind ((rows_yield hrows).map _)

theorem items_yield {items : List (List Block)}
    (h : ∀ l ∈ items.map NodeList.blocks, l.Yields effect ok inlines blocks f g asked) :
    Walk.Yields effect ok (items.mapM blocks) (items.map g)
      ((items.map NodeList.blocks).flatMap asked) := by
  rw [List.flatMap_map]
  exact .mapM fun xs hxs => h _ (List.mem_map_of_mem hxs)

theorem Definition.traverse_yields {d : Definition Inline Block}
    (h : ∀ l ∈ d.lists, l.Yields effect ok inlines blocks f g asked) :
    (d.traverse inlines blocks).Yields effect ok (d.mapLists f g) (d.lists.flatMap asked) := by
  obtain ⟨hterm, hdefinitions⟩ := List.forall_mem_cons.mp h
  have hterm : (inlines d.term).Yields effect ok _ _ := hterm
  rw [lists, List.flatMap_cons]
  exact hterm.bind ((items_yield hdefinitions).map _)

/-- **Below an inline, the walk has the result of its lists.** -/
theorem Inline.traverse_yields {x : Inline}
    (h : ∀ l ∈ x.lists, l.Yields effect ok inlines blocks f g asked) :
    (x.traverse inlines blocks).Yields effect ok (x.mapLists f g) (x.lists.flatMap asked) := by
  cases x with
  | str | code | space | softBreak | lineBreak | math | raw => exact .pure _
  | styled style content | quoted kind content | link attr content target
  | image attr content target | span attr content =>
    have hcontent : (inlines content).Yields effect ok _ _ :=
      h (.inlines content) List.mem_cons_self
    rw [lists, List.flatMap_singleton]
    exact hcontent.map _
  | note content =>
    have hcontent : (blocks content).Yields effect ok _ _ := h (.blocks content) List.mem_cons_self
    rw [lists, List.flatMap_singleton]
    exact hcontent.map _
  | cite citations content =>
    obtain ⟨hcitations, hcontent⟩ := List.forall_mem_append.mp h
    have hcontent : (inlines content).Yields effect ok _ _ := hcontent _ List.mem_cons_self
    have hcitations : Walk.Yields effect ok (citations.mapM (Citation.traverse inlines)) _ _ :=
      .mapM fun c hc => Citation.traverse_yields fun l hl =>
        hcitations l (List.mem_flatMap.mpr ⟨c, hc, hl⟩)
    rw [lists, List.flatMap_append, List.flatMap_assoc, List.flatMap_singleton]
    exact hcitations.bind (hcontent.map _)

/-- **Below a block, the walk has the result of its lists.** -/
theorem Block.traverse_yields {x : Block}
    (h : ∀ l ∈ x.lists, l.Yields effect ok inlines blocks f g asked) :
    (x.traverse inlines blocks).Yields effect ok (x.mapLists f g) (x.lists.flatMap asked) := by
  cases x with
  | codeBlock | raw | horizontalRule => exact .pure _
  | plain content | para content | header level attr content =>
    have hcontent : (inlines content).Yields effect ok _ _ :=
      h (.inlines content) List.mem_cons_self
    rw [lists, List.flatMap_singleton]
    exact hcontent.map _
  | blockQuote content | div attr content =>
    have hcontent : (blocks content).Yields effect ok _ _ := h (.blocks content) List.mem_cons_self
    rw [lists, List.flatMap_singleton]
    exact hcontent.map _
  | lineBlock lines =>
    have hlines : Walk.Yields effect ok (lines.mapM inlines) _ _ :=
      .mapM fun xs hxs => h (.inlines xs) (List.mem_map_of_mem hxs)
    rw [lists, List.flatMap_map]
    exact hlines.map _
  | orderedList numbering items | bulletList items => exact (items_yield h).map _
  | definitionList items =>
    have hitems : Walk.Yields effect ok (items.mapM (Definition.traverse inlines blocks)) _ _ :=
      .mapM fun d hd => Definition.traverse_yields fun l hl =>
        h l (List.mem_flatMap.mpr ⟨d, hd, hl⟩)
    rw [lists, List.flatMap_assoc]
    exact hitems.map _
  | table attr caption columns head bodies foot =>
    simp only [lists, List.forall_mem_append] at h
    obtain ⟨⟨⟨hcaption, hhead⟩, hbodies⟩, hfoot⟩ := h
    have hbodies : Walk.Yields effect ok (bodies.mapM (TableBody.traverse blocks)) _ _ :=
      .mapM fun t ht => TableBody.traverse_yields fun l hl =>
        hbodies l (List.mem_flatMap.mpr ⟨t, ht, hl⟩)
    rw [lists, List.flatMap_append, List.flatMap_append, List.flatMap_append, List.append_assoc,
      List.append_assoc, List.flatMap_assoc]
    exact (Caption.traverse_yields hcaption).bind ((TableEnd.traverse_yields hhead).bind
      (hbodies.bind ((TableEnd.traverse_yields hfoot).map _)))
  | figure attr caption content =>
    obtain ⟨hcaption, hcontent⟩ := List.forall_mem_append.mp h
    have hcontent : (blocks content).Yields effect ok _ _ := hcontent _ List.mem_cons_self
    rw [lists, List.flatMap_append, List.flatMap_singleton]
    exact (Caption.traverse_yields hcaption).bind (hcontent.map _)

mutual

theorem MetaValue.traverse_yields : ∀ v : MetaValue,
    (∀ l ∈ v.lists, l.Yields effect ok inlines blocks f g asked) →
      (v.traverse inlines blocks).Yields effect ok (v.mapLists f g) (v.lists.flatMap asked)
  | .string _, _ | .bool _, _ => .pure _
  | .inlines content, h => by
    have hcontent : (inlines content).Yields effect ok _ _ :=
      h (.inlines content) List.mem_cons_self
    rw [MetaValue.lists, List.flatMap_singleton]
    exact hcontent.map _
  | .blocks content, h => by
    have hcontent : (blocks content).Yields effect ok _ _ := h (.blocks content) List.mem_cons_self
    rw [MetaValue.lists, List.flatMap_singleton]
    exact hcontent.map _
  | .list items, h => (traverseItems_yields items h).map _
  | .map entries, h => (traverseEntries_yields entries h).map _

theorem traverseItems_yields : ∀ items : List MetaValue,
    (∀ l ∈ metaItemsLists items, l.Yields effect ok inlines blocks f g asked) →
      (traverseItems inlines blocks items).Yields effect ok (mapItemLists f g items)
        ((metaItemsLists items).flatMap asked)
  | [], _ => .pure _
  | v :: rest, h => by
    obtain ⟨hv, hrest⟩ := List.forall_mem_append.mp h
    rw [metaItemsLists, List.flatMap_append]
    exact (MetaValue.traverse_yields v hv).bind ((traverseItems_yields rest hrest).map _)

theorem traverseEntries_yields : ∀ entries : List (String × MetaValue),
    (∀ l ∈ metaEntriesLists entries, l.Yields effect ok inlines blocks f g asked) →
      (traverseEntries inlines blocks entries).Yields effect ok (mapEntryLists f g entries)
        ((metaEntriesLists entries).flatMap asked)
  | [], _ => .pure _
  | (_, v) :: rest, h => by
    obtain ⟨hv, hrest⟩ := List.forall_mem_append.mp h
    rw [metaEntriesLists, List.flatMap_append]
    exact (MetaValue.traverse_yields v hv).bind ((traverseEntries_yields rest hrest).map _)

end

/-- **The walk of a document has the result of its lists**, metadata first. -/
theorem Document.traverse_yields {d : Document}
    (h : ∀ l ∈ d.lists, l.Yields effect ok inlines blocks f g asked) :
    (d.traverse inlines blocks).Yields effect ok (d.mapLists f g) (d.lists.flatMap asked) := by
  obtain ⟨hmetadata, hblocks⟩ := List.forall_mem_append.mp h
  have hblocks : (blocks d.blocks).Yields effect ok _ _ := hblocks _ List.mem_cons_self
  rw [lists, List.flatMap_append, List.flatMap_singleton]
  exact (traverseEntries_yields d.metadata hmetadata).bind (hblocks.map _)

end Parts

/-! ## Walks -/

section Walks

variable {r : Editor σ} {a : Answers} {effect : σ → Node → σ} {ok : σ → Prop}

theorem walkLists_yield_within (hr : r.Steady a effect ok) : ∀ (n : Nat) (l : NodeList),
    a.EndsWithin n l → l.Yields effect ok (walkInlines r n) (walkBlocks r n) (a.inlinesWithin n)
      (a.blocksWithin n) (a.askedWithin n)
  | 0, _, h => h.elim
  | n + 1, .inlines xs, h => by
    rw [NodeList.Yields, walkInlines, Answers.inlinesWithin, Answers.askedWithin, NodeList.members,
      List.flatMap_map]
    refine .splice fun x hx => .ask fun s hs => ?_
    obtain ⟨hanswer, heffect⟩ := hr.inline x s hs
    refine ⟨heffect, hr.ok s (.inline x) hs, ?_⟩
    rw [hanswer, Answers.standing, List.flatMap_map]
    refine .mapM fun y hy => Inline.traverse_yields fun l' hl' => walkLists_yield_within hr n l' ?_
    exact h (.inline x) (List.mem_map_of_mem hx) (.inline y) (List.mem_map_of_mem hy) l' hl'
  | n + 1, .blocks xs, h => by
    rw [NodeList.Yields, walkBlocks, Answers.blocksWithin, Answers.askedWithin, NodeList.members,
      List.flatMap_map]
    refine .splice fun x hx => .ask fun s hs => ?_
    obtain ⟨hanswer, heffect⟩ := hr.block x s hs
    refine ⟨heffect, hr.ok s (.block x) hs, ?_⟩
    rw [hanswer, Answers.standing, List.flatMap_map]
    refine .mapM fun y hy => Block.traverse_yields fun l' hl' => walkLists_yield_within hr n l' ?_
    exact h (.block x) (List.mem_map_of_mem hx) (.block y) (List.mem_map_of_mem hy) l' hl'

/-- **A steady editor walks through a list as its answers say**, if it may go down far enough. -/
theorem walkLists_yield (hr : r.Steady a effect ok) (ha : a.Ends) {n : Nat} {l : NodeList}
    (h : a.EndsWithin n l) : l.Yields effect ok (walkInlines r n) (walkBlocks r n) a.inlinesAfter
      a.blocksAfter a.asked :=
  (walkLists_yield_within hr n l h).congr (Answers.after_eq_within h (ha l))
    (Answers.askedWithin_eq h (ha l))

/-- **A steady editor walks through a metadata value as its answers say.** -/
theorem MetaValue.walk_yields (hr : r.Steady a effect ok) (ha : a.Ends) {n : Nat} {v : MetaValue}
    (h : ∀ l ∈ v.lists, a.EndsWithin n l) :
    (v.traverse (walkInlines r n) (walkBlocks r n)).Yields effect ok
      (v.mapLists a.inlinesAfter a.blocksAfter) (v.lists.flatMap a.asked) :=
  v.traverse_yields fun l hl => walkLists_yield hr ha (h l hl)

/-- **A steady editor walks through a document as its answers say.** -/
theorem Document.walk_yields (hr : r.Steady a effect ok) (ha : a.Ends) {n : Nat} {d : Document}
    (h : ∀ l ∈ d.lists, a.EndsWithin n l) :
    (d.walk r n).Yields effect ok (a.document d) (d.lists.flatMap a.asked) :=
  d.traverse_yields fun l hl => walkLists_yield hr ha (h l hl)

end Walks

end DeckFilter
