import DeckFilter.Document.Decode
import DeckFilter.Document.Encode
import DeckFilter.Walk

/-!
# Walking JSON

The walk of a document as it is done on plain JSON, where nothing says which arrays are lists of
nodes: an item of an array is a node if its tag is one of a block or an inline.

* `Json.tag?`, `Block.tags`, `Inline.tags`: which objects are nodes;
* `Json.standing`: what stands in place of an item once its editor has answered;
* `Json.walk`, `Json.walkDocument`: the walks;
* `Json.walk_array`, `Json.walk_object`: their equations;
* `Json.Inert`: the values that are walked past.
-/

namespace DeckFilter

open Json (object array string number)

/-! ## Nodes among JSON values -/

/-- The tag of an object. -/
def Json.tag? : Json → Option String
  | object members =>
    match Json.find? "t" members with
    | some (string tag) => some tag
    | _ => none
  | _ => none

/-- The tags of inlines. -/
def Inline.tags : List String :=
  ["Str", "Emph", "Underline", "Strong", "Strikeout", "Superscript", "Subscript", "SmallCaps",
    "Quoted", "Cite", "Code", "Space", "SoftBreak", "LineBreak", "Math", "RawInline", "Link",
    "Image", "Note", "Span"]

/-- The tags of blocks. -/
def Block.tags : List String :=
  ["Plain", "Para", "LineBlock", "CodeBlock", "RawBlock", "BlockQuote", "OrderedList",
    "BulletList", "DefinitionList", "Header", "HorizontalRule", "Table", "Figure", "Div"]

/-- The values that stand in place of `v` once the editor has answered. -/
def Edit.standingJson {α : Type} (toJson : α → Json) (v : Json) : Edit α → List Json
  | unchanged => [v]
  | delete => []
  | replace nodes => nodes.map toJson

variable {σ : Type} (r : Editor σ)

/-- What stands in place of an item of an array. An item with the tag of a node is offered to the
editor as the node it stands for, and there is no result if it stands for none. -/
def Json.standing (v : Json) : Walk σ (List Json) :=
  match v.tag? with
  | none => pure [v]
  | some tag =>
    if tag ∈ Block.tags then
      match blockOfJson v with
      | .ok x => do
        let answer ← ask (r.block x)
        pure (answer.standingJson Block.toJson v)
      | .error _ => failure
    else if tag ∈ Inline.tags then
      match inlineOfJson v with
      | .ok x => do
        let answer ← ask (r.inline x)
        pure (answer.standingJson Inline.toJson v)
      | .error _ => failure
    else pure [v]

/-! ## Walks -/

/-- Walk through a value from a state: the items of an array from left to right, each once it has
been offered to the editor; the members of an object in order. -/
def Json.walkFrom (v : Json) (s : σ) : Option (Json × σ) :=
  match v with
  | object members =>
    StateT.run (m := Option) (do
      let members ← members.mapM fun m => do
        let v ← (m.2 |>.walkFrom : Walk σ Json)
        pure (m.1, v)
      pure (object members)) s
  | array items =>
    StateT.run (m := Option) (do
      let parts ← items.mapM fun item => do
        (← item.standing r).mapM fun v => (v |>.walkFrom : Walk σ Json)
      pure (array parts.flatten)) s
  | v => some (v, s)
partial_fixpoint

/-- Walk through a value. -/
def Json.walk (v : Json) : Walk σ Json := v.walkFrom r

/-- Walk through a document: the metadata before the other members. -/
def Json.walkDocument : Json → Walk σ Json
  | object members => do
    let metadata ← (Json.find? "meta" members).mapM (Json.walk r)
    let members ← members.mapM fun m => do
      let v ← if m.1 = "meta" then pure (metadata.getD m.2) else m.2.walk r
      pure (m.1, v)
    pure (object members)
  | v => v.walk r

/-! ## Equations -/

theorem Json.walk_array (items : List Json) : (array items).walk r = (do
    let parts ← items.mapM fun item => do (← item.standing r).mapM (Json.walk r)
    pure (array parts.flatten)) := by
  funext s
  rw [Json.walk, Json.walkFrom]
  rfl

theorem Json.walk_object (members : List (String × Json)) : (object members).walk r = (do
    let members ← members.mapM fun m => do
      let v ← m.2.walk r
      pure (m.1, v)
    pure (object members)) := by
  funext s
  rw [Json.walk, Json.walkFrom]
  rfl

theorem Json.walk_scalar {v : Json} (h : ∀ items, v ≠ array items)
    (h' : ∀ members, v ≠ object members) : v.walk r = pure v := by
  funext s
  rw [Json.walk, Json.walkFrom]
  · rfl
  · exact h'
  · exact h

theorem Json.standing_of_not_node {v : Json} {tag : String} (h : v.tag? = some tag)
    (htag : tag ∉ Block.tags ∧ tag ∉ Inline.tags) : v.standing r = pure [v] := by
  rw [standing, h]
  simp only [htag.1, htag.2, if_false]

theorem Json.walk_array_of_standing {items : List Json}
    (h : ∀ v ∈ items, v.standing r = pure [v]) :
    (array items).walk r = array <$> items.mapM (Json.walk r) := by
  have hparts : ∀ vs : List Json, (∀ v ∈ vs, v.standing r = pure [v]) →
      (vs.mapM fun v => do (← v.standing r).mapM (Json.walk r)) =
        (List.map fun w => [w]) <$> vs.mapM (Json.walk r) := by
    intro vs hvs
    induction vs with
    | nil => simp
    | cons v vs ih =>
      simp only [List.mapM_cons, ih fun w hw => hvs w (List.mem_cons_of_mem _ hw),
        hvs v List.mem_cons_self, pure_bind, List.mapM_nil, bind_assoc, map_eq_pure_bind,
        List.map_cons]
  rw [walk_array, hparts items h]
  simp only [map_eq_pure_bind, bind_assoc, pure_bind]
  simp only [← List.flatMap_def, List.flatMap_singleton']

section Tuples

variable {r} {a b c d e f : Json} (ha : a.standing r = pure [a]) (hb : b.standing r = pure [b])

include ha hb

theorem Json.walk_pair : (array [a, b]).walk r = (do
    let a ← a.walk r
    let b ← b.walk r
    pure (array [a, b])) := by
  rw [walk_array_of_standing r (by simpa using ⟨ha, hb⟩)]
  simp only [List.mapM_cons, List.mapM_nil, map_eq_pure_bind, bind_assoc, pure_bind]

theorem Json.walk_triple (hc : c.standing r = pure [c]) : (array [a, b, c]).walk r = (do
    let a ← a.walk r
    let b ← b.walk r
    let c ← c.walk r
    pure (array [a, b, c])) := by
  rw [walk_array_of_standing r (by simpa using ⟨ha, hb, hc⟩)]
  simp only [List.mapM_cons, List.mapM_nil, map_eq_pure_bind, bind_assoc, pure_bind]

theorem Json.walk_quadruple (hc : c.standing r = pure [c]) (hd : d.standing r = pure [d]) :
    (array [a, b, c, d]).walk r = (do
      let a ← a.walk r
      let b ← b.walk r
      let c ← c.walk r
      let d ← d.walk r
      pure (array [a, b, c, d])) := by
  rw [walk_array_of_standing r (by simpa using ⟨ha, hb, hc, hd⟩)]
  simp only [List.mapM_cons, List.mapM_nil, map_eq_pure_bind, bind_assoc, pure_bind]

theorem Json.walk_quintuple (hc : c.standing r = pure [c]) (hd : d.standing r = pure [d])
    (he : e.standing r = pure [e]) : (array [a, b, c, d, e]).walk r = (do
      let a ← a.walk r
      let b ← b.walk r
      let c ← c.walk r
      let d ← d.walk r
      let e ← e.walk r
      pure (array [a, b, c, d, e])) := by
  rw [walk_array_of_standing r (by simpa using ⟨ha, hb, hc, hd, he⟩)]
  simp only [List.mapM_cons, List.mapM_nil, map_eq_pure_bind, bind_assoc, pure_bind]

theorem Json.walk_sextuple (hc : c.standing r = pure [c]) (hd : d.standing r = pure [d])
    (he : e.standing r = pure [e]) (hf : f.standing r = pure [f]) :
    (array [a, b, c, d, e, f]).walk r = (do
      let a ← a.walk r
      let b ← b.walk r
      let c ← c.walk r
      let d ← d.walk r
      let e ← e.walk r
      let f ← f.walk r
      pure (array [a, b, c, d, e, f])) := by
  rw [walk_array_of_standing r (by simpa using ⟨ha, hb, hc, hd, he, hf⟩)]
  simp only [List.mapM_cons, List.mapM_nil, map_eq_pure_bind, bind_assoc, pure_bind]

end Tuples

/-! ## Values that are walked past -/

/-- A value that is no node and has none in it. -/
structure Json.Inert (v : Json) : Prop where
  standing : v.standing r = pure [v]
  walk : v.walk r = pure v

variable {r}

theorem Json.inert_null : Json.null.Inert r := ⟨rfl, walk_scalar r nofun nofun⟩

theorem Json.inert_bool (b : Bool) : (Json.bool b).Inert r := ⟨rfl, walk_scalar r nofun nofun⟩

theorem Json.inert_number (n : Json.Number) : (number n).Inert r :=
  ⟨rfl, walk_scalar r nofun nofun⟩

theorem Json.inert_string (s : String) : (string s).Inert r := ⟨rfl, walk_scalar r nofun nofun⟩

theorem Json.inert_array {items : List Json} (h : ∀ v ∈ items, v.Inert r) :
    (array items).Inert r := by
  refine ⟨rfl, ?_⟩
  have hitems : ∀ vs : List Json, (∀ v ∈ vs, v.Inert r) → vs.mapM (Json.walk r) = pure vs := by
    intro vs hvs
    induction vs with
    | nil => rfl
    | cons v vs ih =>
      rw [List.mapM_cons, (hvs v List.mem_cons_self).walk, pure_bind,
        ih fun w hw => hvs w (List.mem_cons_of_mem _ hw), pure_bind]
  rw [walk_array_of_standing r fun v hv => (h v hv).standing, hitems items h, map_pure]

theorem Json.inert_pair {a b : Json} (ha : a.Inert r) (hb : b.Inert r) : (array [a, b]).Inert r :=
  inert_array (by simpa using ⟨ha, hb⟩)

theorem Json.walk_bare (tag : String) : (bare tag).walk r = pure (bare tag) := by
  rw [bare, walk_object, List.mapM_cons, List.mapM_nil, Json.inert_string _ |>.walk]
  simp only [pure_bind]

theorem Json.walk_tagged (tag : String) (c : Json) :
    (tagged tag c).walk r = tagged tag <$> c.walk r := by
  rw [tagged, walk_object, List.mapM_cons, List.mapM_cons, List.mapM_nil,
    Json.inert_string _ |>.walk]
  simp only [pure_bind, bind_assoc, map_eq_pure_bind]
  rfl

theorem Json.inert_bare {tag : String} (h : tag ∉ Block.tags ∧ tag ∉ Inline.tags) :
    (bare tag).Inert r :=
  ⟨standing_of_not_node r rfl h, walk_bare tag⟩

theorem Json.walk_tagged_of_inert (tag : String) {c : Json} (hc : c.Inert r) :
    (tagged tag c).walk r = pure (tagged tag c) := by
  rw [walk_tagged, hc.walk, map_pure]

theorem Json.inert_tagged {tag : String} {c : Json} (h : tag ∉ Block.tags ∧ tag ∉ Inline.tags)
    (hc : c.Inert r) : (tagged tag c).Inert r :=
  ⟨standing_of_not_node r rfl h, walk_tagged_of_inert tag hc⟩

theorem integerToJson_inert (n : Int64) : (integerToJson n).Inert r := Json.inert_number _

theorem Attr.toJson_inert (a : Attr) : a.toJson.Inert r := by
  have hclasses : (stringsToJson a.classes).Inert r :=
    Json.inert_array (List.forall_mem_map.mpr fun s _ => Json.inert_string s)
  refine Json.inert_array ?_
  simp only [List.mem_cons, List.not_mem_nil, or_false, forall_eq_or_imp, forall_eq]
  refine ⟨Json.inert_string _, hclasses, Json.inert_array ?_⟩
  exact List.forall_mem_map.mpr fun p _ =>
    Json.inert_pair (Json.inert_string _) (Json.inert_string _)

theorem Target.toJson_inert (t : Target) : t.toJson.Inert r :=
  Json.inert_pair (Json.inert_string _) (Json.inert_string _)

theorem QuoteKind.bare_inert (k : QuoteKind) : (bare k.tag).Inert r := by
  cases k <;> exact Json.inert_bare (by decide)

theorem MathKind.bare_inert (k : MathKind) : (bare k.tag).Inert r := by
  cases k <;> exact Json.inert_bare (by decide)

theorem CitationMode.bare_inert (m : CitationMode) : (bare m.tag).Inert r := by
  cases m <;> exact Json.inert_bare (by decide)

theorem NumberStyle.bare_inert (s : NumberStyle) : (bare s.tag).Inert r := by
  cases s <;> exact Json.inert_bare (by decide)

theorem NumberDelim.bare_inert (d : NumberDelim) : (bare d.tag).Inert r := by
  cases d <;> exact Json.inert_bare (by decide)

theorem Alignment.bare_inert (a : Alignment) : (bare a.tag).Inert r := by
  cases a <;> exact Json.inert_bare (by decide)

theorem Numbering.toJson_inert (n : Numbering) : n.toJson.Inert r :=
  Json.inert_array (by
    simpa using ⟨integerToJson_inert _, n.style.bare_inert, n.delim.bare_inert⟩)

theorem ColumnWidth.toJson_inert (w : ColumnWidth) : w.toJson.Inert r := by
  cases w with
  | default => exact Json.inert_bare (by decide)
  | share x =>
    refine Json.inert_tagged (by decide) ?_
    split
    · exact Json.inert_number _
    · exact Json.inert_null

theorem Column.toJson_inert (c : Column) : c.toJson.Inert r :=
  Json.inert_pair c.alignment.bare_inert c.width.toJson_inert

end DeckFilter
