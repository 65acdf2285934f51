import DeckFilter.Document.Traverse
import DeckFilter.Walk
import Mathlib.Control.Basic

/-!
# Traversals take their steps alike

A traversal is made of the steps it is given, in a fixed order. If the steps of one traversal are
related to those of another, by a relation between computations that respects returning and binding,
then so are the traversals.

* `Compatible`: the relations;
* `Inline.traverse_related`, … `Document.traverse_related`: traversals;
* `spliceM_related`: lists put together from lists.
-/

namespace DeckFilter

variable {m n : Type → Type} [Monad m] [Monad n]

/-- A relation between computations that respects returning and binding. -/
structure Compatible (R : ∀ {α : Type}, m α → n α → Prop) : Prop where
  pure : ∀ {α : Type} (x : α), R (Pure.pure x : m α) (Pure.pure x)
  bind : ∀ {α β : Type} {a : m α} {b : n α} {f : α → m β} {g : α → n β}, R a b →
    (∀ x, R (f x) (g x)) → R (a >>= f) (b >>= g)

variable [LawfulMonad m] [LawfulMonad n] {R : ∀ {α : Type}, m α → n α → Prop}
  (hR : Compatible (m := m) (n := n) R)

include hR

theorem Compatible.map {α β : Type} {a : m α} {b : n α} (h : R a b) (f : α → β) :
    R (f <$> a) (f <$> b) := by
  rw [map_eq_pure_bind, map_eq_pure_bind]
  exact hR.bind h fun x => hR.pure (f x)

theorem Compatible.mapM {α β : Type} {f : α → m β} {g : α → n β} (h : ∀ x, R (f x) (g x)) :
    ∀ xs : List α, R (xs.mapM f) (xs.mapM g)
  | [] => by
    rw [List.mapM_nil, List.mapM_nil]
    exact hR.pure []
  | x :: xs => by
    rw [List.mapM_cons, List.mapM_cons]
    exact hR.bind (h x) fun y => hR.bind (Compatible.mapM h xs) fun ys => hR.pure (y :: ys)

theorem Compatible.optionMapM {α β : Type} {f : α → m β} {g : α → n β} (h : ∀ x, R (f x) (g x)) :
    ∀ x : Option α, R (x.mapM f) (x.mapM g)
  | none => by
    rw [Option.mapM_none, Option.mapM_none]
    exact hR.pure none
  | some x => by
    rw [Option.mapM_some, Option.mapM_some]
    exact hR.map (h x) some

omit [LawfulMonad m] [LawfulMonad n] in
theorem spliceM_related {α β : Type} {f : α → m (List β)} {g : α → n (List β)}
    (h : ∀ x, R (f x) (g x)) : ∀ xs : List α, R (spliceM f xs) (spliceM g xs)
  | [] => hR.pure []
  | x :: xs => hR.bind (h x) fun ys => hR.bind (spliceM_related h xs) fun zs => hR.pure (ys ++ zs)

section Nodes

variable {inlines : List Inline → m (List Inline)} {inlines' : List Inline → n (List Inline)}
  {blocks : List Block → m (List Block)} {blocks' : List Block → n (List Block)}
  (hi : ∀ xs, R (inlines xs) (inlines' xs)) (hb : ∀ xs, R (blocks xs) (blocks' xs))

include hi in
omit [LawfulMonad m] [LawfulMonad n] in
theorem Citation.traverse_related (c : Citation Inline) :
    R (c.traverse inlines) (c.traverse inlines') :=
  hR.bind (hi _) fun _ => hR.bind (hi _) fun _ => hR.pure _

include hi hb in
theorem Caption.traverse_related (c : Caption Inline Block) :
    R (c.traverse inlines blocks) (c.traverse inlines' blocks') :=
  hR.bind (hR.optionMapM hi _) fun _ => hR.bind (hR.optionMapM hb _) fun _ => hR.pure _

include hb in
theorem Row.traverse_related (row : Row Block) : R (row.traverse blocks) (row.traverse blocks') :=
  hR.bind (hR.mapM (fun _ => hR.bind (hb _) fun _ => hR.pure _) _) fun _ => hR.pure _

include hb in
theorem TableEnd.traverse_related (t : TableEnd Block) :
    R (t.traverse blocks) (t.traverse blocks') :=
  hR.bind (hR.mapM (Row.traverse_related hR hb) _) fun _ => hR.pure _

include hb in
theorem TableBody.traverse_related (t : TableBody Block) :
    R (t.traverse blocks) (t.traverse blocks') :=
  hR.bind (hR.mapM (Row.traverse_related hR hb) _) fun _ =>
    hR.bind (hR.mapM (Row.traverse_related hR hb) _) fun _ => hR.pure _

include hi hb

theorem Definition.traverse_related (d : Definition Inline Block) :
    R (d.traverse inlines blocks) (d.traverse inlines' blocks') :=
  hR.bind (hi _) fun _ => hR.bind (hR.mapM hb _) fun _ => hR.pure _

/-- **Traversals of an inline are related if their steps are.** -/
theorem Inline.traverse_related (x : Inline) :
    R (x.traverse inlines blocks) (x.traverse inlines' blocks') := by
  cases x with
  | str | code | space | softBreak | lineBreak | math | raw => exact hR.pure _
  | styled | quoted | link | image | span => exact hR.map (hi _) _
  | note => exact hR.map (hb _) _
  | cite citations content =>
    exact hR.bind (hR.mapM (Citation.traverse_related hR hi) _) fun _ =>
      hR.bind (hi _) fun _ => hR.pure _

/-- **Traversals of a block are related if their steps are.** -/
theorem Block.traverse_related (x : Block) :
    R (x.traverse inlines blocks) (x.traverse inlines' blocks') := by
  cases x with
  | codeBlock | raw | horizontalRule => exact hR.pure _
  | plain | para | header => exact hR.map (hi _) _
  | blockQuote | div => exact hR.map (hb _) _
  | lineBlock => exact hR.map (hR.mapM hi _) _
  | orderedList | bulletList => exact hR.map (hR.mapM hb _) _
  | definitionList => exact hR.map (hR.mapM (Definition.traverse_related hR hi hb) _) _
  | table =>
    exact hR.bind (Caption.traverse_related hR hi hb _) fun _ =>
      hR.bind (TableEnd.traverse_related hR hb _) fun _ =>
        hR.bind (hR.mapM (TableBody.traverse_related hR hb) _) fun _ =>
          hR.bind (TableEnd.traverse_related hR hb _) fun _ => hR.pure _
  | figure =>
    exact hR.bind (Caption.traverse_related hR hi hb _) fun _ =>
      hR.bind (hb _) fun _ => hR.pure _

set_option linter.unusedSectionVars false in
mutual

/-- **Traversals of a metadata value are related if their steps are.** -/
theorem MetaValue.traverse_related : ∀ v : MetaValue,
    R (v.traverse inlines blocks) (v.traverse inlines' blocks')
  | .string _ | .bool _ => hR.pure _
  | .inlines _ => hR.map (hi _) _
  | .blocks _ => hR.map (hb _) _
  | .list items => hR.map (traverseItems_related items) _
  | .map entries => hR.map (traverseEntries_related entries) _

theorem traverseItems_related : ∀ items : List MetaValue,
    R (traverseItems inlines blocks items) (traverseItems inlines' blocks' items)
  | [] => hR.pure _
  | v :: rest => hR.bind (MetaValue.traverse_related v) fun _ =>
      hR.bind (traverseItems_related rest) fun _ => hR.pure _

theorem traverseEntries_related : ∀ entries : List (String × MetaValue),
    R (traverseEntries inlines blocks entries) (traverseEntries inlines' blocks' entries)
  | [] => hR.pure _
  | (_, v) :: rest => hR.bind (MetaValue.traverse_related v) fun _ =>
      hR.bind (traverseEntries_related rest) fun _ => hR.pure _

end

/-- **Traversals of a document are related if their steps are.** -/
theorem Document.traverse_related (d : Document) :
    R (d.traverse inlines blocks) (d.traverse inlines' blocks') :=
  hR.bind (traverseEntries_related hR hi hb _) fun _ => hR.bind (hb _) fun _ => hR.pure _

end Nodes

end DeckFilter
