import DeckFilter.Proofs.Document.Faithful
import DeckFilter.Proofs.Document.Positions

/-!
# Reading a value that was changed

The reader takes a value apart in the order of its layout, so what it says about a value that was
changed in some nodes is what it says about the value itself, up to the first node at which it gives
up. This holds whatever becomes of a single node, as long as it holds of every node.

* `Decoded.Breaks`: a reading that is like another up to an error, with `Decoded.Breaks.bind`;
* `Alike`: values that differ in nodes alone, with the first error that comes from one of them;
* `each_breaks`, `asPair_breaks`, … `asSextuple_breaks`: values of a shape;
* `Inline.decode_breaks`, `Block.decode_breaks`, `MetaValue.decode_breaks`: nodes, one level down.
-/

namespace DeckFilter

/-! ## Readings up to an error -/

namespace Decoded

variable {α β : Type} {o o₁ o₂ : Option DecodeError}

/-- Without an error the second reading is the first; with one, it breaks off with the error if the
first reading gets through. -/
def Breaks (o : Option DecodeError) (x x' : Decoded α) : Prop :=
  match o with
  | none => x' = x
  | some e => ∀ a, x = .ok a → x' = .error e

theorem Breaks.same (x : Decoded α) : Breaks none x x := rfl

theorem error_bind (e : DecodeError) (f : α → Decoded β) :
    ((.error e : Decoded α) >>= f) = .error e := by
  simp only [bind, Except.bind]

theorem Breaks.failed (e : DecodeError) : Breaks o (.error e : Decoded α) (.error e) := by
  cases o with
  | none => rfl
  | some e' =>
    intro a ha
    cases ha

/-- **The first error of two steps is that of the first step, if it has one.** -/
theorem Breaks.bind {x x' : Decoded α} {f f' : α → Decoded β} (h : Breaks o₁ x x')
    (hf : ∀ a, Breaks o₂ (f a) (f' a)) : Breaks (o₁.or o₂) (x >>= f) (x' >>= f') := by
  cases o₁ with
  | none =>
    obtain rfl : x' = x := h
    cases x' with
    | error e => exact .failed e
    | ok a => exact hf a
  | some e =>
    intro b hb
    obtain ⟨a, ha, -⟩ := bind_eq_ok.mp hb
    rw [h a ha]
    rfl

theorem Breaks.step {x : Decoded α} {f f' : α → Decoded β} (h : ∀ a, Breaks o (f a) (f' a)) :
    Breaks o (x >>= f) (x >>= f') :=
  (Breaks.same x).bind h

theorem Breaks.bind_same {x x' : Decoded α} (h : Breaks o x x') (f : α → Decoded β) :
    Breaks o (x >>= f) (x' >>= f) := by
  have := h.bind fun a => .same (f a)
  rwa [Option.or_none] at this

theorem Breaks.map {x x' : Decoded α} (h : Breaks o x x') (f : α → β) :
    Breaks o (f <$> x) (f <$> x') := by
  rw [map_eq_pure_bind, map_eq_pure_bind]
  exact h.bind_same _

end Decoded

open Decoded (Breaks)

/-! ## Values that differ in nodes alone -/

/-- Values of the layout have the shape of this one. -/
def Layout.Fits : Layout → Json → Prop
  | leaf, _ | node _, _ | each _, .array _ | tuple _, .array _ | entries _, .object _
  | citation, .object _ => True
  | _, _ => False

section Alike

variable (L : NodeKind → Json → Json → Option DecodeError → Prop)

mutual

/-- Two values of a layout are the same but for nodes, which are related by `L`; the error is the
first of those that `L` says. -/
inductive Alike : Layout → Json → Json → Option DecodeError → Prop
  | leaf (v : Json) : Alike .leaf v v none
  | node {k : NodeKind} {v v' : Json} {o : Option DecodeError} (h : L k v v' o) :
      Alike (.node k) v v' o
  | misfit {l : Layout} {v : Json} (h : ¬l.Fits v) : Alike l v v none
  | each {l : Layout} {items items' : List Json} {o : Option DecodeError}
      (h : ItemsAlike (.each l) 0 items items' o) : Alike (.each l) (.array items) (.array items') o
  | tuple {ls : List Layout} {items items' : List Json} {o : Option DecodeError}
      (h : ItemsAlike (.tuple ls) 0 items items' o) :
      Alike (.tuple ls) (.array items) (.array items') o
  | entries {l : Layout} {members members' : List (String × Json)} {o : Option DecodeError}
      (h : MembersAlike l members members' o) :
      Alike (.entries l) (.object members) (.object members') o
  | citation {members members' : List (String × Json)} {o₁ o₂ : Option DecodeError}
      (hother : ∀ key, key ≠ "citationPrefix" → key ≠ "citationSuffix" →
        Json.find? key members' = Json.find? key members)
      (hbefore : FieldAlike .inlines (Json.find? "citationPrefix" members)
        (Json.find? "citationPrefix" members') o₁)
      (hafter : FieldAlike .inlines (Json.find? "citationSuffix" members)
        (Json.find? "citationSuffix" members') o₂) :
      Alike .citation (.object members) (.object members') (o₁.or o₂)

/-- The items of two arrays, from number `i` on. -/
inductive ItemsAlike : Layout → Nat → List Json → List Json → Option DecodeError → Prop
  | nil (l : Layout) (i : Nat) : ItemsAlike l i [] [] none
  | cons {l : Layout} {i : Nat} {v v' : Json} {rest rest' : List Json} {o o' : Option DecodeError}
      (h : Alike (l.item i) v v' o) (hrest : ItemsAlike l (i + 1) rest rest' o') :
      ItemsAlike l i (v :: rest) (v' :: rest') (o.or o')

/-- The members of two objects, all of the same layout. -/
inductive MembersAlike : Layout → List (String × Json) → List (String × Json) →
    Option DecodeError → Prop
  | nil (l : Layout) : MembersAlike l [] [] none
  | cons {l : Layout} {key : String} {v v' : Json} {rest rest' : List (String × Json)}
      {o o' : Option DecodeError} (h : Alike l v v' o) (hrest : MembersAlike l rest rest' o') :
      MembersAlike l ((key, v) :: rest) ((key, v') :: rest') (o.or o')

/-- A member of two objects, or none in either. -/
inductive FieldAlike : Layout → Option Json → Option Json → Option DecodeError → Prop
  | none (l : Layout) : FieldAlike l none none none
  | some {l : Layout} {v v' : Json} {o : Option DecodeError} (h : Alike l v v' o) :
      FieldAlike l (some v) (some v') o

end

/-- Two nodes with alike content: they have the same tag. A node without a tag or without content is
like itself. -/
inductive ContentAlike (k : NodeKind) : Json → Json → Option DecodeError → Prop
  | content {members members' : List (String × Json)} {tag : String} {c c' : Json}
      {o : Option DecodeError} (htag : Json.find? "t" members = some (.string tag))
      (htag' : Json.find? "t" members' = some (.string tag))
      (hc : Json.find? "c" members = some c) (hc' : Json.find? "c" members' = some c')
      (h : Alike L (k.content tag) c c' o) :
      ContentAlike k (.object members) (.object members') o
  | bare {v : Json} (h : ∀ tag c, ¬v.HasContent tag c) : ContentAlike k v v none

end Alike

variable {L : NodeKind → Json → Json → Option DecodeError → Prop} {α β : Type}
  {v v' : Json} {o o₁ o₂ : Option DecodeError}

theorem Alike.of_leaf (h : Alike L .leaf v v' o) : v' = v ∧ o = none := by
  cases h with
  | leaf => exact ⟨rfl, rfl⟩
  | misfit hfits => exact absurd trivial hfits

theorem Alike.of_node {k : NodeKind} (h : Alike L (.node k) v v' o) : L k v v' o := by
  cases h with
  | node h => exact h
  | misfit hfits => exact absurd trivial hfits

/-! ## Shapes -/

section Shapes

variable {l l₁ l₂ l₃ l₄ l₅ l₆ : Layout} {what : String}

theorem mapM_breaks {f f' : Json → Decoded α}
    (hf : ∀ {x x' o}, Alike L l x x' o → Breaks o (f x) (f' x')) {i : Nat}
    {items items' : List Json} (h : ItemsAlike L (.each l) i items items' o) :
    Breaks o (items.mapM f) (items'.mapM f') := by
  induction items generalizing i items' o with
  | nil =>
    cases h
    exact .same _
  | cons x items ih =>
    cases h with
    | cons hx hitems =>
      rw [List.mapM_cons, List.mapM_cons]
      exact (hf hx).bind fun y => (ih hitems).bind_same _

/-- **Arrays are read item by item.** -/
theorem each_breaks {f f' : Json → Decoded α}
    (hf : ∀ {x x' o}, Alike L l x x' o → Breaks o (f x) (f' x')) (h : Alike L (.each l) v v' o) :
    Breaks o (asArray what v >>= fun items => items.mapM f)
      (asArray what v' >>= fun items => items.mapM f') := by
  cases h with
  | misfit hfits => cases v <;> first | exact .failed _ | exact absurd trivial hfits
  | each h => exact mapM_breaks hf h

theorem each_bind_breaks {f f' : Json → Decoded α} {g g' : List α → Decoded β}
    (hf : ∀ {x x' o}, Alike L l x x' o → Breaks o (f x) (f' x')) (h : Alike L (.each l) v v' o₁)
    (hg : ∀ xs, Breaks o₂ (g xs) (g' xs)) :
    Breaks (o₁.or o₂) (asArray what v >>= fun items => items.mapM f >>= g)
      (asArray what v' >>= fun items => items.mapM f' >>= g') := by
  rw [← bind_assoc, ← bind_assoc]
  exact (each_breaks hf h).bind hg

theorem asPair_breaks {k k' : Json × Json → Decoded α} (h : Alike L (.tuple [l₁, l₂]) v v' o)
    (hf : ∀ {a a' b b' o₁ o₂}, Alike L l₁ a a' o₁ → Alike L l₂ b b' o₂ →
      Breaks (o₁.or (o₂.or none)) (k (a, b)) (k' (a', b'))) :
    Breaks o (asPair what v >>= k) (asPair what v' >>= k') := by
  cases h with
  | misfit hfits => cases v <;> first | exact .failed _ | exact absurd trivial hfits
  | tuple h =>
    obtain _ | ⟨h₁, _ | ⟨h₂, _ | ⟨_, _⟩⟩⟩ := h
    · exact .failed _
    · exact .failed _
    · exact hf h₁ h₂
    · exact .failed _

theorem asTriple_breaks {k k' : Json × Json × Json → Decoded α}
    (h : Alike L (.tuple [l₁, l₂, l₃]) v v' o)
    (hf : ∀ {a a' b b' c c' o₁ o₂ o₃}, Alike L l₁ a a' o₁ → Alike L l₂ b b' o₂ →
      Alike L l₃ c c' o₃ →
      Breaks (o₁.or (o₂.or (o₃.or none))) (k (a, b, c)) (k' (a', b', c'))) :
    Breaks o (asTriple what v >>= k) (asTriple what v' >>= k') := by
  cases h with
  | misfit hfits => cases v <;> first | exact .failed _ | exact absurd trivial hfits
  | tuple h =>
    obtain _ | ⟨h₁, _ | ⟨h₂, _ | ⟨h₃, _ | ⟨_, _⟩⟩⟩⟩ := h
    · exact .failed _
    · exact .failed _
    · exact .failed _
    · exact hf h₁ h₂ h₃
    · exact .failed _

theorem asQuadruple_breaks {k k' : Json × Json × Json × Json → Decoded α}
    (h : Alike L (.tuple [l₁, l₂, l₃, l₄]) v v' o)
    (hf : ∀ {a a' b b' c c' d d' o₁ o₂ o₃ o₄}, Alike L l₁ a a' o₁ → Alike L l₂ b b' o₂ →
      Alike L l₃ c c' o₃ → Alike L l₄ d d' o₄ →
      Breaks (o₁.or (o₂.or (o₃.or (o₄.or none)))) (k (a, b, c, d)) (k' (a', b', c', d'))) :
    Breaks o (asQuadruple what v >>= k) (asQuadruple what v' >>= k') := by
  cases h with
  | misfit hfits => cases v <;> first | exact .failed _ | exact absurd trivial hfits
  | tuple h =>
    obtain _ | ⟨h₁, _ | ⟨h₂, _ | ⟨h₃, _ | ⟨h₄, _ | ⟨_, _⟩⟩⟩⟩⟩ := h
    · exact .failed _
    · exact .failed _
    · exact .failed _
    · exact .failed _
    · exact hf h₁ h₂ h₃ h₄
    · exact .failed _

theorem asQuintuple_breaks {k k' : Json × Json × Json × Json × Json → Decoded α}
    (h : Alike L (.tuple [l₁, l₂, l₃, l₄, l₅]) v v' o)
    (hf : ∀ {a a' b b' c c' d d' e e' o₁ o₂ o₃ o₄ o₅}, Alike L l₁ a a' o₁ → Alike L l₂ b b' o₂ →
      Alike L l₃ c c' o₃ → Alike L l₄ d d' o₄ → Alike L l₅ e e' o₅ →
      Breaks (o₁.or (o₂.or (o₃.or (o₄.or (o₅.or none))))) (k (a, b, c, d, e))
        (k' (a', b', c', d', e'))) :
    Breaks o (asQuintuple what v >>= k) (asQuintuple what v' >>= k') := by
  cases h with
  | misfit hfits => cases v <;> first | exact .failed _ | exact absurd trivial hfits
  | tuple h =>
    obtain _ | ⟨h₁, _ | ⟨h₂, _ | ⟨h₃, _ | ⟨h₄, _ | ⟨h₅, _ | ⟨_, _⟩⟩⟩⟩⟩⟩ := h
    · exact .failed _
    · exact .failed _
    · exact .failed _
    · exact .failed _
    · exact .failed _
    · exact hf h₁ h₂ h₃ h₄ h₅
    · exact .failed _

theorem asSextuple_breaks {k k' : Json × Json × Json × Json × Json × Json → Decoded α}
    (h : Alike L (.tuple [l₁, l₂, l₃, l₄, l₅, l₆]) v v' o)
    (hf : ∀ {a a' b b' c c' d d' e e' f f' o₁ o₂ o₃ o₄ o₅ o₆}, Alike L l₁ a a' o₁ →
      Alike L l₂ b b' o₂ → Alike L l₃ c c' o₃ → Alike L l₄ d d' o₄ → Alike L l₅ e e' o₅ →
      Alike L l₆ f f' o₆ →
      Breaks (o₁.or (o₂.or (o₃.or (o₄.or (o₅.or (o₆.or none)))))) (k (a, b, c, d, e, f))
        (k' (a', b', c', d', e', f'))) :
    Breaks o (asSextuple what v >>= k) (asSextuple what v' >>= k') := by
  cases h with
  | misfit hfits => cases v <;> first | exact .failed _ | exact absurd trivial hfits
  | tuple h =>
    obtain _ | ⟨h₁, _ | ⟨h₂, _ | ⟨h₃, _ | ⟨h₄, _ | ⟨h₅, _ | ⟨h₆, _ | ⟨_, _⟩⟩⟩⟩⟩⟩⟩ := h
    · exact .failed _
    · exact .failed _
    · exact .failed _
    · exact .failed _
    · exact .failed _
    · exact .failed _
    · exact hf h₁ h₂ h₃ h₄ h₅ h₆
    · exact .failed _

theorem member_breaks {l : Layout} {name : String} {members members' : List (String × Json)}
    {f f' : Json → Decoded α} {k k' : α → Decoded β}
    (h : FieldAlike L l (Json.find? name members) (Json.find? name members') o₁)
    (hf : ∀ {x x' o}, Alike L l x x' o → Breaks o (f x) (f' x'))
    (hk : ∀ a, Breaks o₂ (k a) (k' a)) :
    Breaks (o₁.or o₂) (member name members >>= fun x => f x >>= k)
      (member name members' >>= fun x => f' x >>= k') := by
  rw [member, member]
  generalize Json.find? name members = x at h ⊢
  generalize Json.find? name members' = x' at h ⊢
  cases h with
  | none => exact .failed _
  | some h => exact (hf h).bind hk

end Shapes

/-! ## Parts -/

/-- Two readers of lists say the same about alike lists, up to the first error. -/
structure NodeReaders.Agree (L : NodeKind → Json → Json → Option DecodeError → Prop)
    (r r' : NodeReaders) : Prop where
  inlines : ∀ {v v' o}, Alike L .inlines v v' o → Breaks o (r.inlines v) (r'.inlines v')
  blocks : ∀ {v v' o}, Alike L .blocks v v' o → Breaks o (r.blocks v) (r'.blocks v')

section Parts

variable {r r' : NodeReaders} (hr : r.Agree L r')

include hr

theorem decodeItems_breaks (h : Alike L (.each .blocks) v v' o) :
    Breaks o (decodeItems r v) (decodeItems r' v') :=
  each_breaks hr.blocks h

theorem Definition.decode_breaks (h : Alike L (.tuple [.inlines, .each .blocks]) v v' o) :
    Breaks o (Definition.decode r v) (Definition.decode r' v') := by
  refine asPair_breaks h fun hterm hdefinitions => ?_
  exact (hr.inlines hterm).bind fun _ => (decodeItems_breaks hr hdefinitions).bind fun _ => .same _

theorem decodeShort_breaks (h : Alike L .inlines v v' o) :
    Breaks o (decodeShort r v) (decodeShort r' v') := by
  have hread := (hr.inlines h).map some
  cases h with
  | misfit =>
    cases v with
    | null => exact .same _
    | _ => exact hread
  | each => exact hread

theorem Caption.decode_breaks (h : Alike L .caption v v' o) :
    Breaks o (Caption.decode r v) (Caption.decode r' v') := by
  refine asPair_breaks h fun hshort hlong => ?_
  exact (decodeShort_breaks hr hshort).bind fun _ => (hr.blocks hlong).bind fun _ => .same _

theorem Cell.decode_breaks (h : Alike L .cell v v' o) :
    Breaks o (Cell.decode r v) (Cell.decode r' v') := by
  refine asQuintuple_breaks h fun hattr halignment hrows hcolumns hcontent => ?_
  obtain ⟨rfl, rfl⟩ := hattr.of_leaf
  obtain ⟨rfl, rfl⟩ := halignment.of_leaf
  obtain ⟨rfl, rfl⟩ := hrows.of_leaf
  obtain ⟨rfl, rfl⟩ := hcolumns.of_leaf
  simp only [Option.none_or]
  refine .step fun _ => .step fun _ => .step fun _ => .step fun _ => ?_
  exact (hr.blocks hcontent).bind fun _ => .same _

theorem Row.decode_breaks (h : Alike L (.tuple [.leaf, .each .cell]) v v' o) :
    Breaks o (Row.decode r v) (Row.decode r' v') := by
  refine asPair_breaks h fun hattr hcells => ?_
  obtain ⟨rfl, rfl⟩ := hattr.of_leaf
  simp only [Option.none_or]
  exact .step fun _ => each_bind_breaks (Cell.decode_breaks hr) hcells fun _ => .same _

theorem decodeRows_breaks (h : Alike L .rows v v' o) :
    Breaks o (decodeRows r v) (decodeRows r' v') :=
  each_breaks (Row.decode_breaks hr) h

theorem TableEnd.decode_breaks (what : String) (h : Alike L .tableEnd v v' o) :
    Breaks o (TableEnd.decode r what v) (TableEnd.decode r' what v') := by
  refine asPair_breaks h fun hattr hrows => ?_
  obtain ⟨rfl, rfl⟩ := hattr.of_leaf
  simp only [Option.none_or]
  exact .step fun _ => (decodeRows_breaks hr hrows).bind fun _ => .same _

theorem TableBody.decode_breaks (h : Alike L .tableBody v v' o) :
    Breaks o (TableBody.decode r v) (TableBody.decode r' v') := by
  refine asQuadruple_breaks h fun hattr hcolumns hhead hrows => ?_
  obtain ⟨rfl, rfl⟩ := hattr.of_leaf
  obtain ⟨rfl, rfl⟩ := hcolumns.of_leaf
  simp only [Option.none_or]
  refine .step fun _ => .step fun _ => ?_
  exact (decodeRows_breaks hr hhead).bind fun _ => (decodeRows_breaks hr hrows).bind fun _ =>
    .same _

theorem Citation.decode_breaks (h : Alike L .citation v v' o) :
    Breaks o (Citation.decode r v) (Citation.decode r' v') := by
  cases h with
  | misfit hfits => cases v <;> first | exact .failed _ | exact absurd trivial hfits
  | @citation members members' o₁ o₂ hother hbefore hafter =>
    have hsame (key : String) (hkey : key ≠ "citationPrefix") (hkey' : key ≠ "citationSuffix") :
        member key members' = member key members := by
      rw [member, member, hother key hkey hkey']
    have hobject (members : List (String × Json)) :
        asObject "Citation" (.object members) = .ok members := rfl
    rw [Citation.decode, Citation.decode, hobject, hobject, Decoded.ok_bind, Decoded.ok_bind,
      hsame "citationId" (by decide) (by decide), hsame "citationMode" (by decide) (by decide),
      hsame "citationNoteNum" (by decide) (by decide),
      hsame "citationHash" (by decide) (by decide)]
    refine .step fun _ => .step fun _ => ?_
    refine member_breaks hbefore hr.inlines fun _ => ?_
    rw [← Option.or_none (o := o₂)]
    exact member_breaks hafter hr.inlines fun _ => .same _

end Parts

/-! ## Nodes -/

theorem ContentAlike.refl {k : NodeKind}
    (h : ∀ tag c, v.HasContent tag c → Alike L (k.content tag) c c none) :
    ContentAlike L k v v none := by
  by_cases hcontent : ∃ tag c, v.HasContent tag c
  · obtain ⟨tag, c, members, rfl, htag, hc⟩ := hcontent
    exact .content htag htag hc hc (h tag c ⟨members, rfl, htag, hc⟩)
  · exact .bare fun tag c hc => hcontent ⟨tag, c, hc⟩

theorem asTagged_of_find? {members : List (String × Json)} {tag : String} (what : String)
    (h : Json.find? "t" members = some (.string tag)) :
    asTagged what (.object members) = .ok (tag, Json.find? "c" members) := by
  simp only [asTagged, asObject, Decoded.ok_bind, h]

/-- **Nodes with alike content are read alike** if this is so for every tag, and if nodes without
content are. -/
theorem ContentAlike.breaks {k : NodeKind} {what : String}
    {f f' : String × Option Json → Decoded α} (h : ContentAlike L k v v' o)
    (hcontent : ∀ {tag c c'}, Alike L (k.content tag) c c' o →
      Breaks o (f (tag, some c)) (f' (tag, some c')))
    (hbare : ∀ tag, f' (tag, none) = f (tag, none)) :
    Breaks o (asTagged what v >>= f) (asTagged what v' >>= f') := by
  cases h with
  | content htag htag' hc hc' h =>
    rw [asTagged_of_find? what htag, asTagged_of_find? what htag', hc, hc', Decoded.ok_bind,
      Decoded.ok_bind]
    exact hcontent h
  | bare hnone =>
    cases hread : asTagged what v with
    | error e => exact .failed e
    | ok p =>
      obtain ⟨tag, c⟩ := p
      obtain ⟨members, hv, htag, hc⟩ := asTagged_eq_ok hread
      cases c with
      | none => exact hbare tag
      | some c => exact absurd ⟨members, hv, htag, hc⟩ (hnone tag c)

theorem NodeKind.content_of_ofTag? {tag : String} {style : Style}
    (h : Style.ofTag? tag = some style) :
    NodeKind.content .inline tag = .inlines := by
  have htag : style.tag == tag := List.find?_some (p := fun s : Style => s.tag == tag) h
  obtain rfl := eq_of_beq htag
  cases style <;> rfl

theorem Inline.decodeTagged_none (r r' : NodeReaders) (tag : String) :
    Inline.decodeTagged r' tag none = Inline.decodeTagged r tag none := by
  unfold Inline.decodeTagged
  simp only [contentOf, Decoded.error_bind]

theorem Block.decodeTagged_none (r r' : NodeReaders) (tag : String) :
    Block.decodeTagged r' tag none = Block.decodeTagged r tag none := by
  unfold Block.decodeTagged
  simp only [contentOf, Decoded.error_bind]

section Nodes

variable {r r' : NodeReaders} (hr : r.Agree L r') {tag : String} {c c' : Json}

include hr

theorem Inline.decodeTagged_breaks (h : Alike L (NodeKind.content .inline tag) c c' o) :
    Breaks o (Inline.decodeTagged r tag (some c)) (Inline.decodeTagged r' tag (some c')) := by
  unfold Inline.decodeTagged
  simp only [contentOf, Decoded.ok_bind]
  split
  case h_1 | h_2 | h_3 | h_4 | h_7 | h_8 | h_9 =>
    -- text, blanks, code, math and raw markup hold no nodes
    obtain ⟨rfl, rfl⟩ := Alike.of_leaf h
    exact .same _
  case h_5 | h_13 =>
    refine asPair_breaks h fun hattr hcontent => ?_
    obtain ⟨rfl, rfl⟩ := hattr.of_leaf
    simp only [Option.none_or]
    exact .step fun _ => (hr.inlines hcontent).bind fun _ => .same _
  case h_6 =>
    refine asPair_breaks h fun hcitations hcontent => ?_
    exact each_bind_breaks (Citation.decode_breaks hr) hcitations fun _ =>
      (hr.inlines hcontent).bind fun _ => .same _
  case h_10 | h_11 =>
    refine asTriple_breaks h fun hattr hcontent htarget => ?_
    obtain ⟨rfl, rfl⟩ := hattr.of_leaf
    obtain ⟨rfl, rfl⟩ := htarget.of_leaf
    simp only [Option.none_or]
    exact .step fun _ => (hr.inlines hcontent).bind fun _ => .step fun _ => .same _
  case h_12 => exact (hr.blocks h).bind_same _
  case h_14 => exact .failed _

/-- **What the reader says of an inline** is what it says of its parts. -/
theorem Inline.decode_breaks (h : ContentAlike L .inline v v' o) :
    Breaks o (Inline.decode r v) (Inline.decode r' v') := by
  refine h.breaks (fun {tag c c'} h => ?_) fun tag => ?_
  · dsimp only
    cases hstyle : Style.ofTag? tag with
    | some style =>
      rw [NodeKind.content_of_ofTag? hstyle] at h
      simp only [contentOf, Decoded.ok_bind]
      exact (hr.inlines h).bind_same _
    | none => exact Inline.decodeTagged_breaks hr h
  · dsimp only
    cases Style.ofTag? tag with
    | some style => rfl
    | none => exact Inline.decodeTagged_none r r' tag

theorem Block.decodeTagged_breaks (h : Alike L (NodeKind.content .block tag) c c' o) :
    Breaks o (Block.decodeTagged r tag (some c)) (Block.decodeTagged r' tag (some c')) := by
  unfold Block.decodeTagged
  simp only [contentOf, Decoded.ok_bind]
  split
  case h_4 | h_5 | h_11 =>
    -- code, raw markup and rules hold no nodes
    obtain ⟨rfl, rfl⟩ := Alike.of_leaf h
    exact .same _
  case h_1 | h_2 => exact (hr.inlines h).bind_same _
  case h_3 =>
    rw [← Option.or_none (o := o)]
    exact each_bind_breaks hr.inlines h fun _ => .same _
  case h_6 => exact (hr.blocks h).bind_same _
  case h_7 =>
    refine asPair_breaks h fun hnumbering hitems => ?_
    obtain ⟨rfl, rfl⟩ := hnumbering.of_leaf
    simp only [Option.none_or]
    exact .step fun _ => (decodeItems_breaks hr hitems).bind fun _ => .same _
  case h_8 => exact (decodeItems_breaks hr h).bind_same _
  case h_9 =>
    rw [← Option.or_none (o := o)]
    exact each_bind_breaks (Definition.decode_breaks hr) h fun _ => .same _
  case h_10 =>
    refine asTriple_breaks h fun hlevel hattr hcontent => ?_
    obtain ⟨rfl, rfl⟩ := hlevel.of_leaf
    obtain ⟨rfl, rfl⟩ := hattr.of_leaf
    simp only [Option.none_or]
    exact .step fun _ => .step fun _ => (hr.inlines hcontent).bind fun _ => .same _
  case h_12 =>
    refine asSextuple_breaks h fun hattr hcaption hcolumns hhead hbodies hfoot => ?_
    obtain ⟨rfl, rfl⟩ := hattr.of_leaf
    obtain ⟨rfl, rfl⟩ := hcolumns.of_leaf
    simp only [Option.none_or]
    refine .step fun _ => (Caption.decode_breaks hr hcaption).bind fun _ => .step fun _ =>
      .step fun _ => (TableEnd.decode_breaks hr _ hhead).bind fun _ => ?_
    exact each_bind_breaks (TableBody.decode_breaks hr) hbodies fun _ =>
      (TableEnd.decode_breaks hr _ hfoot).bind fun _ => .same _
  case h_13 =>
    refine asTriple_breaks h fun hattr hcaption hcontent => ?_
    obtain ⟨rfl, rfl⟩ := hattr.of_leaf
    simp only [Option.none_or]
    exact .step fun _ => (Caption.decode_breaks hr hcaption).bind fun _ =>
      (hr.blocks hcontent).bind fun _ => .same _
  case h_14 =>
    refine asPair_breaks h fun hattr hcontent => ?_
    obtain ⟨rfl, rfl⟩ := hattr.of_leaf
    simp only [Option.none_or]
    exact .step fun _ => (hr.blocks hcontent).bind fun _ => .same _
  case h_15 => exact .failed _

/-- **What the reader says of a block** is what it says of its parts. -/
theorem Block.decode_breaks (h : ContentAlike L .block v v' o) :
    Breaks o (Block.decode r v) (Block.decode r' v') := by
  exact h.breaks (Block.decodeTagged_breaks hr) fun tag => Block.decodeTagged_none r r' tag

end Nodes

/-! ## Metadata -/

theorem entries_breaks {l : Layout} {what : String} {f f' : Json → Decoded α}
    (hf : ∀ {x x' o}, Alike L l x x' o → Breaks o (f x) (f' x'))
    (h : Alike L (.entries l) v v' o) :
    Breaks o
      (asMap what v >>= fun members => members.mapM fun (k, v) => do
        let v ← f v
        .ok (k, v))
      (asMap what v' >>= fun members => members.mapM fun (k, v) => do
        let v ← f' v
        .ok (k, v)) := by
  cases h with
  | misfit hfits => cases v <;> first | exact .failed _ | exact absurd trivial hfits
  | entries h =>
    rename_i members members'
    simp only [asMap, Decoded.ok_bind]
    induction members generalizing members' o with
    | nil =>
      cases h
      exact .same _
    | cons m members ih =>
      cases h with
      | cons hv hrest =>
        rw [List.mapM_cons, List.mapM_cons]
        exact ((hf hv).bind_same _).bind fun y => (ih hrest).bind_same _

/-- The readers of lists of nodes that nest however deep. -/
def NodeReaders.unbounded : NodeReaders := ⟨inlinesOfJson, blocksOfJson⟩

/-- **What the reader says of a metadata value** is what it says of its parts. -/
theorem MetaValue.decode_breaks {entry entry' : Json → Decoded MetaValue}
    (hr : NodeReaders.unbounded.Agree L .unbounded)
    (hentry : ∀ {x x' o}, L .metadata x x' o → Breaks o (entry x) (entry' x'))
    (h : ContentAlike L .metadata v v' o) :
    Breaks o (MetaValue.decode entry v) (MetaValue.decode entry' v') := by
  refine h.breaks (fun {tag c c'} h => ?_) fun tag => ?_
  · simp only [contentOf, Decoded.ok_bind]
    split
    case h_1 | h_2 =>
      -- strings and booleans hold no nodes
      obtain ⟨rfl, rfl⟩ := Alike.of_leaf h
      exact .same _
    case h_3 => exact (hr.inlines h).map _
    case h_4 => exact (hr.blocks h).map _
    case h_5 =>
      simp only [map_eq_pure_bind]
      rw [← Option.or_none (o := o)]
      exact each_bind_breaks (fun h => hentry h.of_node) h fun _ => .same _
    case h_6 =>
      simp only [map_eq_pure_bind]
      rw [← bind_assoc, ← bind_assoc]
      exact (entries_breaks (fun h => hentry h.of_node) h).bind_same _
    case h_7 => exact .failed _
  · simp only [contentOf, Decoded.error_bind]

end DeckFilter
