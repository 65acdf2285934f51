import DeckFilter.Proofs.Document.ReadWritten
import DeckFilter.Proofs.Walk.Untyped

/-!
# Walking nodes and walking JSON

Walking the lists below a node is walking the node as it is written, if the same is true of the
lists.

* `Refines`: one walk does what another does, up to the way results are written;
* `NodeList.Refined`: a list is walked as it is written;
* `Citation.traverse_refines`, … `TableBody.traverse_refines`: parts;
* `Inline.traverse_refines`, `Block.traverse_refines`: nodes.
-/

namespace DeckFilter

open Json (object array string number)

/-! ## Refinement -/

section Refines

variable {σ α β α' β' : Type} {write : α → β} {good : α → Prop} {write' : α' → β'}
  {good' : α' → Prop} {a : Walk σ α} {b : Walk σ β}

/-- When the walk `a` has a result, it is `good`, and `b` has it in written form and leaves the same
state. -/
def Refines (write : α → β) (good : α → Prop) (a : Walk σ α) (b : Walk σ β) : Prop :=
  ∀ ⦃s : σ⦄ ⦃x : α⦄ ⦃s' : σ⦄, a.run s = some (x, s') → b.run s = some (write x, s') ∧ good x

theorem Refines.pure {x : α} {y : β} (hy : y = write x) (hx : good x) :
    Refines (σ := σ) write good (Pure.pure x) (Pure.pure y) := fun s x' s' h => by
  cases h
  exact ⟨by rw [hy]; rfl, hx⟩

theorem Refines.bind {f : α → Walk σ α'} {g : β → Walk σ β'} (h : Refines write good a b)
    (hf : ∀ x, good x → Refines write' good' (f x) (g (write x))) :
    Refines write' good' (a >>= f) (b >>= g) := fun s x s' hrun => by
  rw [StateT.run_bind] at hrun ⊢
  obtain ⟨⟨y, t⟩, hy, hx⟩ := Option.bind_eq_some_iff.mp hrun
  obtain ⟨hb, hgood⟩ := h hy
  rw [hb]
  exact hf y hgood hx

theorem Refines.map {f : α → α'} {g : β → β'} (h : Refines write good a b)
    (hwrite : ∀ x, g (write x) = write' (f x)) (hgood : ∀ x, good x → good' (f x)) :
    Refines write' good' (f <$> a) (g <$> b) := by
  rw [map_eq_pure_bind, map_eq_pure_bind]
  exact h.bind fun x hx => Refines.pure (hwrite x) (hgood x hx)

theorem Refines.mapM {γ δ : Type} {f : γ → Walk σ α} {g : δ → Walk σ β} {item : γ → δ} :
    ∀ {xs : List γ}, (∀ x ∈ xs, Refines write good (f x) (g (item x))) →
      Refines (List.map write) (fun ys => ∀ y ∈ ys, good y) (xs.mapM f) ((xs.map item).mapM g)
  | [], _ => Refines.pure rfl (fun _ h => absurd h List.not_mem_nil)
  | x :: xs, h => by
    rw [List.map_cons, List.mapM_cons, List.mapM_cons]
    refine (h x List.mem_cons_self).bind fun y hy => ?_
    refine (Refines.mapM fun z hz => h z (List.mem_cons_of_mem _ hz)).bind fun ys hys => ?_
    exact Refines.pure rfl (List.forall_mem_cons.mpr ⟨hy, hys⟩)

end Refines

variable {σ : Type} {r : Editor σ}

theorem Refines.array {α β : Type} {f : α → Walk σ β} {write : β → Json} {item : α → Json}
    {good : β → Prop} {xs : List α} (hitem : ∀ x ∈ xs, (item x).standing r = Pure.pure [item x])
    (h : ∀ x ∈ xs, Refines write good (f x) ((item x).walk r)) :
    Refines (fun ys => Json.array (ys.map write)) (fun ys => ∀ y ∈ ys, good y) (xs.mapM f)
      ((Json.array (xs.map item)).walk r) := by
  rw [Json.walk_array_of_standing r (List.forall_mem_map.mpr hitem), map_eq_pure_bind,
    ← bind_pure (xs.mapM f)]
  exact (Refines.mapM h).bind fun ys hys => Refines.pure rfl hys

/-! ## Parts -/

section Parts

variable {inlines : List Inline → Walk σ (List Inline)} {blocks : List Block → Walk σ (List Block)}

variable (r inlines blocks) in
/-- A walk through lists does with a list what the walk through JSON does with the list as it is
written, and its result is canonical. -/
def NodeList.Refined : NodeList → Prop
  | .inlines xs => Refines (fun ys => array (ys.map Inline.toJson))
      (fun ys => (NodeList.inlines ys).Canonical) (inlines xs)
      ((array (xs.map Inline.toJson)).walk r)
  | .blocks xs => Refines (fun ys => array (ys.map Block.toJson))
      (fun ys => (NodeList.blocks ys).Canonical) (blocks xs)
      ((array (xs.map Block.toJson)).walk r)

theorem Citation.traverse_refines {c : Citation Inline}
    (h : ∀ l ∈ c.lists, l.Refined r inlines blocks) :
    Refines Citation.toJson (fun c => ∀ l ∈ c.lists, l.Canonical) (c.traverse inlines)
      (c.toJson.walk r) := by
  have hbefore : Refines _ _ (inlines c.before) _ := h (.inlines c.before) (by simp [lists])
  have hafter : Refines _ _ (inlines c.after) _ := h (.inlines c.after) (by simp [lists])
  rw [toJson, Json.walk_object, traverse]
  simp only [List.mapM_cons, List.mapM_nil, (integerToJson_inert _).walk,
    (Json.inert_string _).walk, c.mode.bare_inert.walk, pure_bind, bind_assoc]
  refine hbefore.bind fun before hb => hafter.bind fun after ha => Refines.pure rfl ?_
  simpa [lists] using ⟨hb, ha⟩

theorem item_refines {item : List Block} (h : (NodeList.blocks item).Refined r inlines blocks) :
    Refines itemToJson (fun ys => (NodeList.blocks ys).Canonical) (blocks item)
      ((itemToJson item).walk r) := h

theorem Definition.traverse_refines {d : Definition Inline Block}
    (h : ∀ l ∈ d.lists, l.Refined r inlines blocks) :
    Refines Definition.toJson (fun d => ∀ l ∈ d.lists, l.Canonical) (d.traverse inlines blocks)
      (d.toJson.walk r) := by
  have hterm : Refines _ _ (inlines d.term) _ := h (.inlines d.term) (by simp [lists])
  have hdefs : Refines _ _ (d.definitions.mapM blocks) _ := Refines.array (fun _ _ => rfl)
    fun x hx => item_refines (h (.blocks x) (by simp [lists, hx]))
  rw [toJson, Json.walk_pair rfl rfl, traverse]
  refine hterm.bind fun term ht => hdefs.bind fun defs hd => Refines.pure rfl ?_
  simpa [lists] using ⟨ht, hd⟩

theorem Caption.standing_toJson (c : Caption Inline Block) :
    (captionToJson c).standing r = pure [captionToJson c] := by
  cases c
  rfl

theorem TableEnd.standing_toJson (t : TableEnd Block) :
    (tableEndToJson t).standing r = pure [tableEndToJson t] := by
  cases t
  rfl

theorem Caption.traverse_refines {c : Caption Inline Block} (hc : c.long.isSome)
    (h : ∀ l ∈ c.lists, l.Refined r inlines blocks) :
    Refines captionToJson (fun c => c.long.isSome ∧ ∀ l ∈ c.lists, l.Canonical)
      (c.traverse inlines blocks) ((captionToJson c).walk r) := by
  obtain ⟨short, long⟩ := c
  obtain ⟨long, rfl⟩ := Option.isSome_iff_exists.mp hc
  have hlong : Refines _ _ (blocks long) _ := h (.blocks long) (by simp [lists])
  rw [captionToJson, longToJson, blocksToJson_eq, traverse]
  cases short with
  | none =>
    rw [shortToJson, Json.walk_pair rfl rfl, Json.inert_null.walk]
    simp only [Option.mapM_none, Option.mapM_some, pure_bind, bind_map_left]
    refine hlong.bind fun ys hys => Refines.pure ?_ ⟨rfl, ?_⟩
    · rw [captionToJson, longToJson, shortToJson, blocksToJson_eq]
    · simpa [lists] using hys
  | some short =>
    have hshort : Refines _ _ (inlines short) _ := h (.inlines short) (by simp [lists])
    rw [shortToJson, inlinesToJson_eq, Json.walk_pair rfl rfl]
    simp only [Option.mapM_some, bind_map_left]
    refine hshort.bind fun xs hxs => hlong.bind fun ys hys => Refines.pure ?_ ⟨rfl, ?_⟩
    · rw [captionToJson, longToJson, shortToJson, blocksToJson_eq, inlinesToJson_eq]
    · simpa [lists] using ⟨hxs, hys⟩

theorem Cell.traverse_refines {c : Cell Block}
    (h : (NodeList.blocks c.content).Refined r inlines blocks) :
    Refines Cell.toJson (fun c => (NodeList.blocks c.content).Canonical) (c.traverse blocks)
      (c.toJson.walk r) := by
  have hcontent : Refines _ _ (blocks c.content) _ := h
  rw [toJson, Json.walk_quintuple rfl c.alignment.bare_inert.standing rfl rfl rfl,
    c.attr.toJson_inert.walk, c.alignment.bare_inert.walk, (integerToJson_inert _).walk,
    (integerToJson_inert _).walk, traverse]
  simp only [pure_bind]
  exact hcontent.bind fun ys hys => Refines.pure rfl hys

theorem Row.traverse_refines {row : Row Block}
    (h : ∀ l ∈ row.lists, l.Refined r inlines blocks) :
    Refines Row.toJson (fun row => ∀ l ∈ row.lists, l.Canonical) (row.traverse blocks)
      (row.toJson.walk r) := by
  have hcells : Refines _ _ (row.cells.mapM (Cell.traverse blocks)) _ :=
    Refines.array (fun _ _ => rfl) fun c hc =>
      Cell.traverse_refines (h _ (List.mem_map_of_mem hc))
  rw [toJson, Json.walk_pair rfl rfl, row.attr.toJson_inert.walk, traverse]
  simp only [pure_bind]
  refine hcells.bind fun cells hcanon => Refines.pure rfl ?_
  simpa [lists] using hcanon

theorem rows_refine {rows : List (Row Block)}
    (h : ∀ l ∈ rows.flatMap Row.lists, l.Refined r inlines blocks) :
    Refines (fun rs => array (rs.map Row.toJson))
      (fun rs => ∀ l ∈ rs.flatMap Row.lists, l.Canonical)
      (rows.mapM (Row.traverse blocks)) ((array (rows.map Row.toJson)).walk r) := by
  have hrows : Refines _ _ (rows.mapM (Row.traverse blocks)) _ :=
    Refines.array (fun _ _ => rfl) fun row hrow =>
      Row.traverse_refines fun l hl => h l (List.mem_flatMap.mpr ⟨row, hrow, hl⟩)
  exact fun s x s' hx => ⟨(hrows hx).1, List.forall_mem_flatMap.mpr (hrows hx).2⟩

theorem TableEnd.traverse_refines {t : TableEnd Block}
    (h : ∀ l ∈ t.lists, l.Refined r inlines blocks) :
    Refines tableEndToJson (fun t => ∀ l ∈ t.lists, l.Canonical) (t.traverse blocks)
      ((tableEndToJson t).walk r) := by
  obtain ⟨attr, rows⟩ := t
  rw [tableEndToJson, rowsToJson_eq, Json.walk_pair rfl rfl, attr.toJson_inert.walk, traverse]
  simp only [pure_bind]
  refine (rows_refine h).bind fun rows hrows => Refines.pure ?_ hrows
  rw [tableEndToJson, rowsToJson_eq]

theorem TableBody.traverse_refines {t : TableBody Block}
    (h : ∀ l ∈ t.lists, l.Refined r inlines blocks) :
    Refines TableBody.toJson (fun t => ∀ l ∈ t.lists, l.Canonical) (t.traverse blocks)
      (t.toJson.walk r) := by
  have hhead := rows_refine fun l hl => h l (List.mem_append_left _ hl)
  have hrows := rows_refine fun l hl => h l (List.mem_append_right _ hl)
  rw [toJson, Json.walk_quadruple rfl rfl rfl rfl, t.attr.toJson_inert.walk,
    (integerToJson_inert _).walk, traverse]
  simp only [pure_bind]
  refine hhead.bind fun head hc => hrows.bind fun rows hc' => Refines.pure rfl ?_
  exact List.forall_mem_append.mpr ⟨hc, hc'⟩

/-! ## Nodes -/

theorem Inline.leaf_refines {x : Inline} (hlists : x.lists = [])
    (htraverse : x.traverse inlines blocks = pure x) (hwalk : x.toJson.walk r = pure x.toJson) :
    Refines Inline.toJson Inline.Canonical (x.traverse inlines blocks) (x.toJson.walk r) := by
  rw [htraverse, hwalk]
  refine Refines.pure rfl (Inline.canonical_iff.mpr fun l hl => ?_)
  rw [hlists] at hl
  exact absurd hl List.not_mem_nil

/-- **An inline is refined if the lists below it are.** -/
theorem Inline.traverse_refines {x : Inline} (h : ∀ l ∈ x.lists, l.Refined r inlines blocks) :
    Refines Inline.toJson Inline.Canonical (x.traverse inlines blocks) (x.toJson.walk r) := by
  cases x with
  | str text => exact leaf_refines rfl rfl (Json.walk_tagged_of_inert _ (Json.inert_string _))
  | styled style content =>
    have hcontent : Refines _ _ (inlines content) _ := h (.inlines content) (by simp [lists])
    rw [toJson, Json.walk_tagged, inlinesToJson_eq, traverse]
    refine hcontent.map (fun xs => ?_) fun xs hxs => Inline.canonical_iff.mpr ?_
    · rw [toJson, inlinesToJson_eq]
    · simpa [lists] using hxs
  | quoted kind content =>
    have hcontent : Refines _ _ (inlines content) _ := h (.inlines content) (by simp [lists])
    rw [toJson, Json.walk_tagged, inlinesToJson_eq, Json.walk_pair kind.bare_inert.standing rfl,
      kind.bare_inert.walk, traverse]
    simp only [pure_bind, map_eq_pure_bind, bind_assoc]
    refine hcontent.bind fun xs hxs => Refines.pure ?_ (Inline.canonical_iff.mpr ?_)
    · rw [toJson, inlinesToJson_eq]
    · simpa [lists] using hxs
  | cite citations content =>
    have hcontent : Refines _ _ (inlines content) _ := h (.inlines content) (by simp [lists])
    have hcitations : Refines _ _ (citations.mapM (Citation.traverse inlines))
        ((array (citations.map Citation.toJson)).walk r) :=
      Refines.array (fun _ _ => rfl) fun c hc =>
        Citation.traverse_refines fun l hl =>
          h l (List.mem_append_left _ (List.mem_flatMap.mpr ⟨c, hc, hl⟩))
    rw [toJson, Json.walk_tagged, citationsToJson_eq, inlinesToJson_eq, Json.walk_pair rfl rfl,
      traverse]
    simp only [map_eq_pure_bind, bind_assoc, pure_bind]
    refine hcitations.bind fun cs hcs => hcontent.bind fun xs hxs =>
      Refines.pure ?_ (Inline.canonical_iff.mpr ?_)
    · rw [toJson, citationsToJson_eq, inlinesToJson_eq]
    · exact List.forall_mem_append.mpr
        ⟨List.forall_mem_flatMap.mpr hcs, List.forall_mem_singleton.mpr hxs⟩
  | code attr text =>
    exact leaf_refines rfl rfl (Json.walk_tagged_of_inert _
      (Json.inert_pair attr.toJson_inert (Json.inert_string _)))
  | space | softBreak | lineBreak => exact leaf_refines rfl rfl (Json.walk_bare _)
  | math kind text =>
    exact leaf_refines rfl rfl (Json.walk_tagged_of_inert _
      (Json.inert_pair kind.bare_inert (Json.inert_string _)))
  | raw format text =>
    exact leaf_refines rfl rfl (Json.walk_tagged_of_inert _
      (Json.inert_pair (Json.inert_string _) (Json.inert_string _)))
  | link attr content target | image attr content target =>
    have hcontent : Refines _ _ (inlines content) _ := h (.inlines content) (by simp [lists])
    rw [toJson, Json.walk_tagged, inlinesToJson_eq, Json.walk_triple rfl rfl rfl,
      attr.toJson_inert.walk, target.toJson_inert.walk, traverse]
    simp only [pure_bind, map_eq_pure_bind, bind_assoc]
    refine hcontent.bind fun xs hxs => Refines.pure ?_ (Inline.canonical_iff.mpr ?_)
    · rw [toJson, inlinesToJson_eq]
    · simpa [lists] using hxs
  | note content =>
    have hcontent : Refines _ _ (blocks content) _ := h (.blocks content) (by simp [lists])
    rw [toJson, Json.walk_tagged, blocksToJson_eq, traverse]
    refine hcontent.map (fun xs => ?_) fun xs hxs => Inline.canonical_iff.mpr ?_
    · rw [toJson, blocksToJson_eq]
    · simpa [lists] using hxs
  | span attr content =>
    have hcontent : Refines _ _ (inlines content) _ := h (.inlines content) (by simp [lists])
    rw [toJson, Json.walk_tagged, inlinesToJson_eq, Json.walk_pair rfl rfl,
      attr.toJson_inert.walk, traverse]
    simp only [pure_bind, map_eq_pure_bind, bind_assoc]
    refine hcontent.bind fun xs hxs => Refines.pure ?_ (Inline.canonical_iff.mpr ?_)
    · rw [toJson, inlinesToJson_eq]
    · simpa [lists] using hxs

theorem items_refine {items : List (List Block)}
    (h : ∀ l ∈ items.map NodeList.blocks, l.Refined r inlines blocks) :
    Refines (fun xs => array (xs.map itemToJson))
      (fun xs => ∀ l ∈ xs.map NodeList.blocks, l.Canonical) (items.mapM blocks)
      ((array (items.map itemToJson)).walk r) := by
  have hitems : Refines _ _ (items.mapM blocks) ((array (items.map itemToJson)).walk r) :=
    Refines.array (fun _ _ => rfl) fun x hx =>
      item_refines (h _ (List.mem_map_of_mem hx))
  exact fun s x s' hx => ⟨(hitems hx).1, List.forall_mem_map.mpr (hitems hx).2⟩

theorem Block.leaf_refines {x : Block} (hx : x.WellShaped) (hlists : x.lists = [])
    (htraverse : x.traverse inlines blocks = pure x) (hwalk : x.toJson.walk r = pure x.toJson) :
    Refines Block.toJson Block.Canonical (x.traverse inlines blocks) (x.toJson.walk r) := by
  rw [htraverse, hwalk]
  refine Refines.pure rfl (Block.canonical_iff.mpr ⟨hx, fun l hl => ?_⟩)
  rw [hlists] at hl
  exact absurd hl List.not_mem_nil

/-- **A well-shaped block is refined if the lists below it are.** -/
theorem Block.traverse_refines {x : Block} (hx : x.WellShaped)
    (h : ∀ l ∈ x.lists, l.Refined r inlines blocks) :
    Refines Block.toJson Block.Canonical (x.traverse inlines blocks) (x.toJson.walk r) := by
  cases x with
  | plain content | para content =>
    have hcontent : Refines _ _ (inlines content) _ := h (.inlines content) (by simp [lists])
    rw [toJson, Json.walk_tagged, inlinesToJson_eq, traverse]
    refine hcontent.map (fun xs => ?_) fun xs hxs => Block.canonical_iff.mpr ⟨trivial, ?_⟩
    · rw [toJson, inlinesToJson_eq]
    · simpa [lists] using hxs
  | lineBlock lines =>
    have hline : ∀ l ∈ lines, Refines (fun l => array (l.map Inline.toJson))
        (fun l => (NodeList.inlines l).Canonical) (inlines l)
          ((array (l.map Inline.toJson)).walk r) :=
      fun l hl => h (.inlines l) (List.mem_map_of_mem hl)
    have hlines := Refines.array (fun _ _ => rfl) hline
    rw [toJson, Json.walk_tagged, linesToJson_eq, traverse]
    refine hlines.map (fun xs => ?_) fun xs hxs => Block.canonical_iff.mpr ⟨trivial, ?_⟩
    · rw [toJson, linesToJson_eq]
    · exact List.forall_mem_map.mpr hxs
  | codeBlock attr text =>
    exact leaf_refines hx rfl rfl (Json.walk_tagged_of_inert _
      (Json.inert_pair attr.toJson_inert (Json.inert_string _)))
  | raw format text =>
    exact leaf_refines hx rfl rfl (Json.walk_tagged_of_inert _
      (Json.inert_pair (Json.inert_string _) (Json.inert_string _)))
  | blockQuote content =>
    have hcontent : Refines _ _ (blocks content) _ := h (.blocks content) (by simp [lists])
    rw [toJson, Json.walk_tagged, blocksToJson_eq, traverse]
    refine hcontent.map (fun xs => ?_) fun xs hxs => Block.canonical_iff.mpr ⟨trivial, ?_⟩
    · rw [toJson, blocksToJson_eq]
    · simpa [lists] using hxs
  | orderedList numbering items =>
    rw [toJson, Json.walk_tagged, itemsToJson_eq, Json.walk_pair rfl rfl,
      numbering.toJson_inert.walk, traverse]
    simp only [pure_bind, map_eq_pure_bind, bind_assoc]
    refine (items_refine h).bind fun xs hxs =>
      Refines.pure ?_ (Block.canonical_iff.mpr ⟨trivial, hxs⟩)
    rw [toJson, itemsToJson_eq]
  | bulletList items =>
    rw [toJson, Json.walk_tagged, itemsToJson_eq, traverse]
    refine (items_refine h).map (fun xs => ?_) fun xs hxs => Block.canonical_iff.mpr ⟨trivial, hxs⟩
    rw [toJson, itemsToJson_eq]
  | definitionList items =>
    have hitems : Refines _ _ (items.mapM (Definition.traverse inlines blocks))
        ((array (items.map Definition.toJson)).walk r) :=
      Refines.array (fun _ _ => rfl) fun d hd =>
        Definition.traverse_refines fun l hl => h l (List.mem_flatMap.mpr ⟨d, hd, hl⟩)
    rw [toJson, Json.walk_tagged, definitionsToJson_eq, traverse]
    refine hitems.map (fun xs => ?_) fun xs hxs => Block.canonical_iff.mpr ⟨trivial, ?_⟩
    · rw [toJson, definitionsToJson_eq]
    · exact List.forall_mem_flatMap.mpr hxs
  | header level attr content =>
    have hcontent : Refines _ _ (inlines content) _ := h (.inlines content) (by simp [lists])
    rw [toJson, Json.walk_tagged, inlinesToJson_eq, Json.walk_triple rfl rfl rfl,
      (Json.inert_number _).walk, attr.toJson_inert.walk, traverse]
    simp only [pure_bind, map_eq_pure_bind, bind_assoc]
    refine hcontent.bind fun xs hxs => Refines.pure ?_ (Block.canonical_iff.mpr ⟨trivial, ?_⟩)
    · rw [toJson, inlinesToJson_eq]
    · simpa [lists] using hxs
  | horizontalRule => exact leaf_refines hx rfl rfl (Json.walk_bare _)
  | table attr caption columns head bodies foot =>
    obtain ⟨hlong, hcolumns⟩ := hx
    have hcaption := Caption.traverse_refines hlong fun l hl => h l (by simp [lists, hl])
    have hhead := TableEnd.traverse_refines (t := head) fun l hl => h l (by simp [lists, hl])
    have hbodies : Refines _ _ (bodies.mapM (TableBody.traverse blocks))
        ((array (bodies.map TableBody.toJson)).walk r) :=
      Refines.array (fun _ _ => rfl) fun t ht =>
        TableBody.traverse_refines fun l hl => h l
          (List.mem_append_left _ (List.mem_append_right _ (List.mem_flatMap.mpr ⟨t, ht, hl⟩)))
    have hfoot := TableEnd.traverse_refines (t := foot) fun l hl => h l (by simp [lists, hl])
    have hinert : (array (columns.map Column.toJson)).Inert r :=
      Json.inert_array (List.forall_mem_map.mpr fun c _ => c.toJson_inert)
    rw [toJson, Json.walk_tagged, tableBodiesToJson_eq, Json.walk_sextuple rfl
      caption.standing_toJson rfl head.standing_toJson rfl foot.standing_toJson,
      attr.toJson_inert.walk, hinert.walk, traverse]
    simp only [pure_bind, map_eq_pure_bind, bind_assoc]
    refine hcaption.bind fun caption hc => hhead.bind fun head hh => hbodies.bind fun bodies hb =>
      hfoot.bind fun foot hf => Refines.pure ?_ (Block.canonical_iff.mpr ⟨⟨hc.1, hcolumns⟩, ?_⟩)
    · rw [toJson, tableBodiesToJson_eq]
    · simp only [lists, List.forall_mem_append]
      exact ⟨⟨⟨hc.2, hh⟩, List.forall_mem_flatMap.mpr hb⟩, hf⟩
  | figure attr caption content =>
    have hcaption := Caption.traverse_refines hx fun l hl => h l (by simp [lists, hl])
    have hcontent : Refines _ _ (blocks content) _ := h (.blocks content) (by simp [lists])
    rw [toJson, Json.walk_tagged, blocksToJson_eq,
      Json.walk_triple rfl caption.standing_toJson rfl, attr.toJson_inert.walk, traverse]
    simp only [pure_bind, map_eq_pure_bind, bind_assoc]
    refine hcaption.bind fun caption hc => hcontent.bind fun xs hxs =>
      Refines.pure ?_ (Block.canonical_iff.mpr ⟨hc.1, ?_⟩)
    · rw [toJson, blocksToJson_eq]
    · exact List.forall_mem_append.mpr ⟨hc.2, List.forall_mem_singleton.mpr hxs⟩
  | div attr content =>
    have hcontent : Refines _ _ (blocks content) _ := h (.blocks content) (by simp [lists])
    rw [toJson, Json.walk_tagged, blocksToJson_eq, Json.walk_pair rfl rfl,
      attr.toJson_inert.walk, traverse]
    simp only [pure_bind, map_eq_pure_bind, bind_assoc]
    refine hcontent.bind fun xs hxs => Refines.pure ?_ (Block.canonical_iff.mpr ⟨trivial, ?_⟩)
    · rw [toJson, blocksToJson_eq]
    · simpa [lists] using hxs

end Parts

end DeckFilter
