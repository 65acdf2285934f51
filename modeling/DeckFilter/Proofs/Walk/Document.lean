import DeckFilter.Proofs.Document.Readable
import DeckFilter.Proofs.Walk.Recording
import DeckFilter.Proofs.Walk.Refinement

/-!
# Walking documents and walking JSON

Walking a document and writing it is writing the document and walking what was written. An editor is
asked about the same nodes in the same order.

* `walkLists_refined`: lists of nodes;
* `MetaValue.traverse_refines`, `Document.walk_refines`: metadata and documents;
* `Editor.KeepsReadable`, `walk_refines_json_walk`: editors that put in what the reader can produce.
-/

namespace DeckFilter

open Json (object array string number)

variable {σ : Type} {r : Editor σ}

/-! ## Lists of nodes -/

section Splice

variable {α β : Type}

theorem spliceM_eq (f : α → Walk σ (List β)) (xs : List α) :
    spliceM f xs = List.flatten <$> xs.mapM f := by
  induction xs with
  | nil => simp [spliceM]
  | cons x xs ih =>
    simp only [spliceM, ih, List.mapM_cons, map_eq_pure_bind, bind_assoc, pure_bind,
      List.flatten_cons]

theorem Json.walk_array_eq_splice (items : List Json) : (array items).walk r =
    array <$> spliceM (fun item => do (← item.standing r).mapM (Json.walk r)) items := by
  rw [walk_array, spliceM_eq]
  simp only [map_eq_pure_bind, bind_assoc, pure_bind]

theorem Refines.splice {write : α → β} {good : α → Prop} {f : α → Walk σ (List α)}
    {g : β → Walk σ (List β)} : ∀ {xs : List α},
      (∀ x ∈ xs, Refines (List.map write) (fun ys => ∀ y ∈ ys, good y) (f x) (g (write x))) →
        Refines (List.map write) (fun ys => ∀ y ∈ ys, good y) (spliceM f xs)
          (spliceM g (xs.map write))
  | [], _ => Refines.pure rfl (fun _ h => absurd h List.not_mem_nil)
  | x :: xs, h => by
    refine (h x List.mem_cons_self).bind fun ys hys => ?_
    refine (Refines.splice fun z hz => h z (List.mem_cons_of_mem _ hz)).bind fun zs hzs => ?_
    exact Refines.pure List.map_append.symm (List.forall_mem_append.mpr ⟨hys, hzs⟩)

theorem Refines.ask {good : α → Prop} {question : StateM σ α}
    (h : ∀ s, good (question.run s).1) : Refines id good (ask question) (ask question) :=
  fun s x s' hx => by
    have hx : some (question.run s) = some (x, s') := hx
    have := h s
    rw [Option.some.inj hx] at this
    exact ⟨hx, this⟩

end Splice

/-- What the editor leaves or puts in place of a canonical node is canonical. -/
structure Editor.KeepsCanonical (r : Editor σ) : Prop where
  inline : ∀ (x : Inline) (s : σ), x.Canonical →
    ∀ y ∈ ((r.inline x).run s).1.standing x, y.Canonical
  block : ∀ (x : Block) (s : σ), x.Canonical →
    ∀ y ∈ ((r.block x).run s).1.standing x, y.Canonical

theorem Edit.standingJson_toJson {α : Type} (toJson : α → Json) (x : α) (e : Edit α) :
    e.standingJson toJson (toJson x) = (e.standing x).map toJson := by
  cases e <;> rfl

theorem Block.tag?_toJson (x : Block) : x.toJson.tag? = some x.tag := by
  cases x <;> rfl

theorem Block.tag_mem (x : Block) : x.tag ∈ Block.tags := by
  cases x <;> simp [tag, tags]

theorem Inline.tag?_toJson (x : Inline) : x.toJson.tag? = some x.tag := by
  cases x <;> rfl

theorem Inline.tag_mem (x : Inline) : x.tag ∉ Block.tags ∧ x.tag ∈ Inline.tags := by
  cases x with
  | styled style _ => cases style <;> simp [tag, Style.tag, tags, Block.tags]
  | _ => simp [tag, tags, Block.tags]

theorem Block.standing_toJson {x : Block} (hx : x.Canonical) : x.toJson.standing r = (do
    let answer ← ask (r.block x)
    pure ((answer.standing x).map Block.toJson)) := by
  rw [Json.standing, x.tag?_toJson]
  simp only [x.tag_mem, if_true, blockOfJson_toJson hx, Edit.standingJson_toJson]

theorem Inline.standing_toJson {x : Inline} (hx : x.Canonical) : x.toJson.standing r = (do
    let answer ← ask (r.inline x)
    pure ((answer.standing x).map Inline.toJson)) := by
  rw [Json.standing, x.tag?_toJson]
  simp only [x.tag_mem.1, x.tag_mem.2, if_true, if_false, inlineOfJson_toJson hx,
    Edit.standingJson_toJson]

section Answers

variable {α : Type} {toJson : α → Json} {good : α → Prop}

theorem Refines.answer {question : StateM σ (Edit α)} {traverse : α → Walk σ α} {x : α}
    (hgood : ∀ s, ∀ y ∈ (question.run s).1.standing x, good y)
    (hstanding : (toJson x).standing r = (do
      let answer ← DeckFilter.ask question
      Pure.pure ((answer.standing x).map toJson)))
    (h : ∀ y, good y → Refines toJson good (traverse y) ((toJson y).walk r)) :
    Refines (List.map toJson) (fun ys => ∀ y ∈ ys, good y)
      (do
        let answer ← DeckFilter.ask question
        (answer.standing x).mapM traverse)
      (do (← (toJson x).standing r).mapM (Json.walk r)) := by
  rw [hstanding, bind_assoc]
  simp only [pure_bind]
  have hask : Refines id (fun answer => ∀ y ∈ answer.standing x, good y)
      (DeckFilter.ask question) (DeckFilter.ask question) := Refines.ask hgood
  exact hask.bind fun answer hanswer => Refines.mapM fun y hy => h y (hanswer y hy)

theorem Refines.list {f : α → Walk σ (List α)} {xs : List α}
    (h : ∀ x ∈ xs, Refines (List.map toJson) (fun ys => ∀ y ∈ ys, good y) (f x)
      (do (← (toJson x).standing r).mapM (Json.walk r))) :
    Refines (fun ys => Json.array (ys.map toJson)) (fun ys => ∀ y ∈ ys, good y) (spliceM f xs)
      ((Json.array (xs.map toJson)).walk r) := by
  rw [Json.walk_array_eq_splice, map_eq_pure_bind, ← bind_pure (spliceM f xs)]
  exact (Refines.splice h).bind fun ys hys => Refines.pure rfl hys

end Answers

/-- **Walking a list of nodes is walking the list as it is written.** -/
theorem walkLists_refined (hr : r.KeepsCanonical) : ∀ (n : Nat) (l : NodeList), l.Canonical →
    l.Refined r (walkInlines r n) (walkBlocks r n)
  | 0, .inlines _, _ => fun _ _ _ h => nomatch h
  | 0, .blocks _, _ => fun _ _ _ h => nomatch h
  | n + 1, .inlines xs, hxs => by
    have hbelow (y : Inline) (hy : y.Canonical) : Refines Inline.toJson Inline.Canonical
        (y.traverse (walkInlines r n) (walkBlocks r n)) (y.toJson.walk r) :=
      Inline.traverse_refines fun l hl =>
        walkLists_refined hr n l (Inline.canonical_iff.mp hy l hl)
    have hitems := NodeList.canonical_inlines.mp hxs
    rw [NodeList.Refined, walkInlines]
    simp only [NodeList.canonical_inlines]
    exact Refines.list fun x hx => Refines.answer (fun s => hr.inline x s (hitems x hx))
      (Inline.standing_toJson (hitems x hx)) hbelow
  | n + 1, .blocks xs, hxs => by
    have hbelow (y : Block) (hy : y.Canonical) : Refines Block.toJson Block.Canonical
        (y.traverse (walkInlines r n) (walkBlocks r n)) (y.toJson.walk r) := by
      obtain ⟨hshape, hlists⟩ := Block.canonical_iff.mp hy
      exact Block.traverse_refines hshape fun l hl => walkLists_refined hr n l (hlists l hl)
    have hitems := NodeList.canonical_blocks.mp hxs
    rw [NodeList.Refined, walkBlocks]
    simp only [NodeList.canonical_blocks]
    exact Refines.list fun x hx => Refines.answer (fun s => hr.block x s (hitems x hx))
      (Block.standing_toJson (hitems x hx)) hbelow

/-! ## Metadata and documents -/

section Metadata

variable {inlines : List Inline → Walk σ (List Inline)} {blocks : List Block → Walk σ (List Block)}

theorem MetaValue.standing_toJson (v : MetaValue) : v.toJson.standing r = pure [v.toJson] := by
  cases v <;> exact Json.standing_of_not_node r rfl (by decide)

theorem map_entries_refines {entries : List (String × MetaValue)} (hasc : Json.Ascending entries)
    (h : Refines (List.map fun e => (e.1, e.2.toJson))
      (fun es => es.map Prod.fst = entries.map Prod.fst ∧ ∀ e ∈ es, e.2.Canonical)
      (traverseEntries inlines blocks entries)
      ((entries.map fun e => (e.1, e.2.toJson)).mapM fun m => do
        let v ← m.2.walk r
        pure (m.1, v))) :
    Refines (fun es => Json.ofMembers (metaEntriesToJson es))
      (fun es => (MetaValue.map es).Canonical) (traverseEntries inlines blocks entries)
      ((Json.ofMembers (metaEntriesToJson entries)).walk r) := by
  rw [ofMembers_metaEntriesToJson hasc, Json.walk_object,
    ← bind_pure (traverseEntries inlines blocks entries)]
  refine h.bind fun es ⟨hkeys, hcanon⟩ => ?_
  have hes : Json.Ascending es := by
    have := List.pairwise_map.mpr hasc
    rw [← hkeys] at this
    exact List.pairwise_map.mp this
  exact Refines.pure (ofMembers_metaEntriesToJson hes).symm
    (MetaValue.canonical_map.mpr ⟨hes, hcanon⟩)

mutual

/-- **A metadata value is refined if the topmost lists in it are.** -/
theorem MetaValue.traverse_refines : ∀ v : MetaValue, v.Canonical →
    (∀ l ∈ v.lists, l.Refined r inlines blocks) →
      Refines MetaValue.toJson MetaValue.Canonical (v.traverse inlines blocks) (v.toJson.walk r)
  | .string s, hv, _ => by
    rw [MetaValue.toJson, Json.walk_tagged_of_inert _ (Json.inert_string s), MetaValue.traverse]
    exact Refines.pure rfl hv
  | .bool b, hv, _ => by
    rw [MetaValue.toJson, Json.walk_tagged_of_inert _ (Json.inert_bool b), MetaValue.traverse]
    exact Refines.pure rfl hv
  | .inlines content, _, h => by
    have hcontent : Refines _ _ (inlines content) _ := h (.inlines content) List.mem_cons_self
    rw [MetaValue.toJson, Json.walk_tagged, inlinesToJson_eq, MetaValue.traverse]
    refine hcontent.map (fun xs => ?_) fun xs hxs => MetaValue.canonical_inlines.mpr hxs
    rw [MetaValue.toJson, inlinesToJson_eq]
  | .blocks content, _, h => by
    have hcontent : Refines _ _ (blocks content) _ := h (.blocks content) List.mem_cons_self
    rw [MetaValue.toJson, Json.walk_tagged, blocksToJson_eq, MetaValue.traverse]
    refine hcontent.map (fun xs => ?_) fun xs hxs => MetaValue.canonical_blocks.mpr hxs
    rw [MetaValue.toJson, blocksToJson_eq]
  | .list items, hv, h => by
    have hitems := traverseItems_refines items (MetaValue.canonical_list.mp hv) h
    rw [MetaValue.toJson, Json.walk_tagged, metaItemsToJson_eq, Json.walk_array_of_standing r
      (List.forall_mem_map.mpr fun v _ => v.standing_toJson), MetaValue.traverse]
    simp only [map_eq_pure_bind, bind_assoc, pure_bind]
    refine hitems.bind fun xs hxs => Refines.pure ?_ (MetaValue.canonical_list.mpr hxs)
    rw [MetaValue.toJson, metaItemsToJson_eq]
  | .map entries, hv, h => by
    obtain ⟨hasc, hcanon⟩ := MetaValue.canonical_map.mp hv
    have hentries := map_entries_refines hasc (traverseEntries_refines entries hcanon h)
    rw [MetaValue.toJson, Json.walk_tagged, MetaValue.traverse]
    exact hentries.map (fun _ => rfl) fun _ hes => hes

theorem traverseItems_refines : ∀ items : List MetaValue, (∀ v ∈ items, v.Canonical) →
    (∀ l ∈ metaItemsLists items, l.Refined r inlines blocks) →
      Refines (List.map MetaValue.toJson) (fun vs => ∀ v ∈ vs, v.Canonical)
        (traverseItems inlines blocks items) ((items.map MetaValue.toJson).mapM (Json.walk r))
  | [], _, _ => Refines.pure rfl (fun _ h => absurd h List.not_mem_nil)
  | v :: rest, hv, h => by
    obtain ⟨hv, hrest⟩ := List.forall_mem_cons.mp hv
    obtain ⟨hl, hls⟩ := List.forall_mem_append.mp h
    rw [traverseItems, List.map_cons, List.mapM_cons]
    refine (MetaValue.traverse_refines v hv hl).bind fun w hw => ?_
    refine (traverseItems_refines rest hrest hls).bind fun ws hws => ?_
    exact Refines.pure rfl (List.forall_mem_cons.mpr ⟨hw, hws⟩)

theorem traverseEntries_refines : ∀ entries : List (String × MetaValue),
    (∀ e ∈ entries, e.2.Canonical) →
      (∀ l ∈ metaEntriesLists entries, l.Refined r inlines blocks) →
        Refines (List.map fun e => (e.1, e.2.toJson))
          (fun es => es.map Prod.fst = entries.map Prod.fst ∧ ∀ e ∈ es, e.2.Canonical)
          (traverseEntries inlines blocks entries)
          ((entries.map fun e => (e.1, e.2.toJson)).mapM fun m => do
            let v ← m.2.walk r
            pure (m.1, v))
  | [], _, _ => Refines.pure rfl ⟨rfl, fun _ h => absurd h List.not_mem_nil⟩
  | (k, v) :: rest, he, h => by
    obtain ⟨hv, hrest⟩ := List.forall_mem_cons.mp he
    obtain ⟨hl, hls⟩ := List.forall_mem_append.mp h
    rw [traverseEntries]
    simp only [List.map_cons, List.mapM_cons, bind_assoc, pure_bind]
    refine (MetaValue.traverse_refines v hv hl).bind fun w hw => ?_
    refine (traverseEntries_refines rest hrest hls).bind fun es ⟨hkeys, hes⟩ => ?_
    refine Refines.pure rfl ⟨?_, List.forall_mem_cons.mpr ⟨hw, hes⟩⟩
    rw [List.map_cons, hkeys]

end

end Metadata

/-- **Walking a document is walking the document as it is written.** -/
theorem Document.walk_refines (hr : r.KeepsCanonical) (n : Nat) {d : Document} (hd : d.Canonical) :
    Refines Document.toJson Document.Canonical (d.walk r n) (d.toJson.walkDocument r) := by
  obtain ⟨hmeta, hblocks⟩ := Document.canonical_iff.mp hd
  obtain ⟨hasc, hcanon⟩ := MetaValue.canonical_map.mp hmeta
  have hlists : ∀ l ∈ metaEntriesLists d.metadata, l.Refined r (walkInlines r n) (walkBlocks r n) :=
    fun l hl => walkLists_refined hr n l (hmeta.2 l hl)
  have h₁ := map_entries_refines hasc (traverseEntries_refines d.metadata hcanon hlists)
  have h₂ : Refines _ _ (walkBlocks r n d.blocks) _ := walkLists_refined hr n _ hblocks
  have hversion : (array (d.apiVersion.map fun n => number (.integer n.toNat))).Inert r :=
    Json.inert_array (List.forall_mem_map.mpr fun n _ => Json.inert_number _)
  rw [toJson, Json.walkDocument, find?_meta, Document.walk, traverse]
  simp only [List.mapM_cons, List.mapM_nil, Option.mapM_some, bind_map_left, bind_assoc, pure_bind,
    Option.getD_some, if_true, hversion.walk, blocksToJson_eq, String.reduceEq, if_false]
  refine h₁.bind fun es hes => h₂.bind fun xs hxs => Refines.pure ?_ ?_
  · rw [toJson, blocksToJson_eq]
  · exact Document.canonical_iff.mpr ⟨hes, hxs⟩

/-! ## Editors -/

/-- What the editor puts in place of a node that the reader can produce, the reader can produce. -/
structure Editor.KeepsReadable (r : Editor σ) : Prop where
  inline : ∀ (x : Inline) (s : σ) (nodes : List Inline), x.Readable →
    ((r.inline x).run s).1 = .replace nodes → ∀ y ∈ nodes, y.Readable
  block : ∀ (x : Block) (s : σ) (nodes : List Block), x.Readable →
    ((r.block x).run s).1 = .replace nodes → ∀ y ∈ nodes, y.Readable

theorem Edit.forall_standing {α : Type} {P : α → Prop} {x : α} {e : Edit α} (hx : P x)
    (h : ∀ nodes, e = .replace nodes → ∀ y ∈ nodes, P y) : ∀ y ∈ e.standing x, P y := by
  cases e with
  | unchanged => exact List.forall_mem_singleton.mpr hx
  | delete => exact fun y hy => absurd hy List.not_mem_nil
  | replace nodes => exact h nodes rfl

theorem Editor.KeepsReadable.keepsCanonical (hr : r.KeepsReadable) : r.KeepsCanonical where
  inline x s hx := Edit.forall_standing hx fun nodes he y hy =>
    Inline.readable_iff.mp (hr.inline x s nodes (Inline.readable_iff.mpr hx) he y hy)
  block x s hx := Edit.forall_standing hx fun nodes he y hy =>
    Block.readable_iff.mp (hr.block x s nodes (Block.readable_iff.mpr hx) he y hy)

theorem Editor.KeepsReadable.recording (hr : r.KeepsReadable) : r.recording.KeepsReadable where
  inline x s := hr.inline x s.1
  block x s := hr.block x s.1

/-- **Walking a document and writing the result is walking the document as it is written.** Both
walks leave the same state, and both ask the editor about the same nodes in the same order. -/
theorem walk_refines_json_walk (hr : r.KeepsReadable) {d d' : Document} (hd : d.Readable)
    {depth : Nat} {s s' : σ} (h : (d.walk r depth).run s = some (d', s')) :
    (d.toJson.walkDocument r).run s = some (d'.toJson, s') ∧
      ∃ asked : List Node, (d.walk r.recording depth).run (s, []) = some (d', (s', asked)) ∧
        (d.toJson.walkDocument r.recording).run (s, []) = some (d'.toJson, (s', asked)) := by
  have hcanon := Document.readable_iff.mp hd
  refine ⟨(Document.walk_refines hr.keepsCanonical depth hcanon h).1, ?_⟩
  have hrecord := Document.walk_recording r depth d s []
  rw [h] at hrecord
  obtain ⟨⟨d'', s'', asked⟩, hrun, heq⟩ := Option.map_eq_some_iff.mp hrecord
  obtain ⟨rfl, rfl⟩ := Prod.mk.inj heq
  exact ⟨asked, hrun, (Document.walk_refines hr.recording.keepsCanonical depth hcanon hrun).1⟩

/-- An editor that counts what it is asked, takes spaces out and puts emphasis in. -/
def sampleEditor : Editor Nat where
  inline x := fun count =>
    (match x with
      | .space => .delete
      | .code _ text => .replace [.styled .emph [.str text], .str text]
      | _ => .unchanged, count + 1)
  block _ := fun count => (.unchanged, count + 1)

theorem sampleEditor_keepsReadable : sampleEditor.KeepsReadable where
  inline x s nodes _ h y hy := by
    refine Inline.readable_iff.mpr ?_
    cases x with
    | code attr text =>
      cases h
      simp only [List.mem_cons, List.not_mem_nil, or_false] at hy
      rcases hy with rfl | rfl <;>
        simp [Inline.canonical_iff, Inline.lists, NodeList.canonical_inlines]
    | _ => cases h
  block _ _ _ _ h := nomatch h

/-- A document with nodes in its metadata and in both captions of a figure. -/
def sampleFigure : Document where
  apiVersion := [1]
  metadata := [("m", .inlines [.space])]
  blocks := [.figure Attr.empty ⟨some [.code Attr.empty "c"], some [.para [.space, .str "s"]]⟩ []]

/-- The document as `sampleEditor` leaves it. -/
def editedFigure : Document where
  apiVersion := [1]
  metadata := [("m", .inlines [])]
  blocks := [.figure Attr.empty
    ⟨some [.styled .emph [.str "c"], .str "c"], some [.para [.str "s"]]⟩ []]

theorem sampleFigure_readable : sampleFigure.Readable := by
  refine Document.readable_iff.mpr (Document.canonical_iff.mpr ⟨?_, ?_⟩)
  · simp [sampleFigure, MetaValue.canonical_map, MetaValue.canonical_inlines, Json.Ascending,
      NodeList.canonical_inlines, Inline.canonical_iff, Inline.lists]
  · simp [sampleFigure, NodeList.canonical_inlines, NodeList.canonical_blocks, Block.canonical_iff,
      Block.lists, Block.WellShaped, Caption.lists, Inline.canonical_iff, Inline.lists]

theorem walk_refines_json_walk_sample :
    (sampleFigure.toJson.walkDocument sampleEditor).run 0 = some (editedFigure.toJson, 7) ∧
      ∃ asked : List Node,
        (sampleFigure.walk sampleEditor.recording 3).run (0, []) =
            some (editedFigure, (7, asked)) ∧
          (sampleFigure.toJson.walkDocument sampleEditor.recording).run (0, []) =
            some (editedFigure.toJson, (7, asked)) := by
  have h : (sampleFigure.walk sampleEditor 3).run 0 = some (editedFigure, 7) := rfl
  exact walk_refines_json_walk sampleEditor_keepsReadable sampleFigure_readable h

end DeckFilter
