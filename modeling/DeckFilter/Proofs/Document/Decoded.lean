import DeckFilter.Document.Shape
import Mathlib.Data.List.Forall2

/-!
# Results of the reader

A reader that succeeds has succeeded at every step.

* `Decoded.ok_bind`, `Decoded.bind_eq_ok`, `Decoded.map_eq_ok`: steps;
* `Decoded.mapM_eq_ok`, `Decoded.mapM_congr`, `Decoded.mapM_map`: lists, item by item.
-/

namespace DeckFilter

namespace Decoded

variable {α β γ : Type}

-- Not by `rfl`: rewriting with definitional equations leaves the kernel to run the readers.
@[simp] theorem ok_bind (a : α) (f : α → Decoded β) : ((.ok a : Decoded α) >>= f) = f a := by
  simp only [bind, Except.bind]

@[simp] theorem map_ok (f : α → β) (a : α) : f <$> (.ok a : Decoded α) = .ok (f a) := by
  simp only [Functor.map, Except.map]

theorem bind_eq_ok {x : Decoded α} {f : α → Decoded β} {b : β} :
    x >>= f = .ok b ↔ ∃ a, x = .ok a ∧ f a = .ok b := by
  cases x with
  | ok a => simp
  | error e => exact ⟨fun h => (nomatch h), fun ⟨a, ha, _⟩ => (nomatch ha)⟩

theorem map_eq_ok {x : Decoded α} {f : α → β} {b : β} :
    f <$> x = .ok b ↔ ∃ a, x = .ok a ∧ f a = b := by
  cases x with
  | ok a => simp
  | error e => exact ⟨fun h => (nomatch h), fun ⟨a, ha, _⟩ => (nomatch ha)⟩

/-- **A list is read item by item.** -/
theorem mapM_eq_ok {f : α → Decoded β} : ∀ {xs : List α} {ys : List β},
    xs.mapM f = .ok ys ↔ List.Forall₂ (fun x y => f x = .ok y) xs ys
  | [], ys => by
    rw [List.mapM_nil, List.forall₂_nil_left_iff]
    exact ⟨fun h => (Except.ok.inj h).symm, fun h => h ▸ rfl⟩
  | x :: xs, ys => by
    rw [List.mapM_cons, bind_eq_ok, List.forall₂_cons_left_iff]
    constructor
    · rintro ⟨y, hy, h⟩
      obtain ⟨rest, hrest, h⟩ := bind_eq_ok.mp h
      exact ⟨y, rest, hy, mapM_eq_ok.mp hrest, (Except.ok.inj h).symm⟩
    · rintro ⟨y, rest, hy, hrest, rfl⟩
      exact ⟨y, hy, bind_eq_ok.mpr ⟨rest, mapM_eq_ok.mpr hrest, rfl⟩⟩

theorem mapM_congr {f g : α → Decoded β} : ∀ {xs : List α}, (∀ x ∈ xs, f x = g x) →
    xs.mapM f = xs.mapM g
  | [], _ => rfl
  | x :: xs, h => by
    rw [List.mapM_cons, List.mapM_cons, h x List.mem_cons_self,
      mapM_congr fun y hy => h y (List.mem_cons_of_mem _ hy)]

theorem mapM_map {f : β → Decoded α} {g : α → β} {xs : List α} (h : ∀ x ∈ xs, f (g x) = .ok x) :
    (xs.map g).mapM f = .ok xs := by
  rw [mapM_eq_ok, List.forall₂_map_left_iff, List.forall₂_same]
  exact h

end Decoded

end DeckFilter
