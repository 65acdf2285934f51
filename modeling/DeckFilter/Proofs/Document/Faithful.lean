import DeckFilter.Document.Decode
import DeckFilter.Proofs.Document.Decoded
import DeckFilter.Proofs.Json.Normal

/-!
# Readers undone by writers

A reader is faithful if what it reads is written as the normal form of the value it was read from.
Lists, tuples and tagged objects of faithful readers are read faithfully.

* `asPair_eq_ok`, … `asTagged_eq_ok`: the values of a shape;
* `Faithful`: the readers, with `Faithful.array`, `Faithful.pair`, `Faithful.triple`;
* `normal_of_asTagged_bare`, `normal_of_contentOf`: tags without and with content;
* `Faithful.content`, `Faithful.contentPair`, `Faithful.contentTriple`: tagged objects.
-/

namespace DeckFilter

open Json (object array string number normal Place bareTags)

/-! ## Shapes -/

theorem asObject_eq_ok {what : String} {v : Json} {members : List (String × Json)}
    (h : asObject what v = .ok members) : v = object members := by
  cases v <;> simp_all [asObject, unmet]

theorem asMap_eq_ok {what : String} {v : Json} {members : List (String × Json)}
    (h : asMap what v = .ok members) : v = object members := by
  cases v <;> simp_all [asMap, unmet]

theorem asArray_eq_ok {what : String} {v : Json} {items : List Json}
    (h : asArray what v = .ok items) : v = array items := by
  cases v <;> simp_all [asArray, unmet]

theorem asString_eq_ok {what : String} {v : Json} {s : String} (h : asString what v = .ok s) :
    v = string s := by
  cases v <;> simp_all [asString, unmet]

theorem asBool_eq_ok {what : String} {v : Json} {b : Bool} (h : asBool what v = .ok b) :
    v = .bool b := by
  cases v <;> simp_all [asBool, unmet]

theorem asInteger_eq_ok {what : String} {v : Json} {n : Int64} (h : asInteger what v = .ok n) :
    v = integerToJson n := by
  unfold asInteger at h
  split at h
  · split_ifs at h with hn
    · cases h
      rw [integerToJson, Int64.toInt_ofInt_of_le hn.1 (Int.lt_of_le_of_lt hn.2 (by decide))]
    · cases h
  · cases h

theorem asUnsigned_eq_ok {expected : Expectation} {v : Json} {n : UInt64}
    (h : asUnsigned expected v = .ok n) : v = number (.integer n.toNat) := by
  unfold asUnsigned at h
  split at h
  · rename_i m
    split_ifs at h with hm
    · cases h
      have hlt : m.toNat < UInt64.size := by omega
      rw [UInt64.toNat_ofNat_of_lt' hlt, Int.toNat_of_nonneg hm.1]
    · cases h
  · cases h

theorem asPair_eq_ok {what : String} {v a b : Json} (h : asPair what v = .ok (a, b)) :
    v = array [a, b] := by
  unfold asPair at h
  split at h <;> simp_all [unmet]

theorem asTriple_eq_ok {what : String} {v a b c : Json} (h : asTriple what v = .ok (a, b, c)) :
    v = array [a, b, c] := by
  unfold asTriple at h
  split at h <;> simp_all [unmet]

theorem asQuadruple_eq_ok {what : String} {v a b c d : Json}
    (h : asQuadruple what v = .ok (a, b, c, d)) : v = array [a, b, c, d] := by
  unfold asQuadruple at h
  split at h <;> simp_all [unmet]

theorem asQuintuple_eq_ok {what : String} {v a b c d e : Json}
    (h : asQuintuple what v = .ok (a, b, c, d, e)) : v = array [a, b, c, d, e] := by
  unfold asQuintuple at h
  split at h <;> simp_all [unmet]

theorem asSextuple_eq_ok {what : String} {v a b c d e f : Json}
    (h : asSextuple what v = .ok (a, b, c, d, e, f)) : v = array [a, b, c, d, e, f] := by
  unfold asSextuple at h
  split at h <;> simp_all [unmet]

theorem member_eq_ok {name : String} {members : List (String × Json)} {v : Json}
    (h : member name members = .ok v) : Json.find? name members = some v := by
  unfold member at h
  split at h <;> simp_all

theorem contentOf_eq_ok {tag : String} {c : Option Json} {v : Json} (h : contentOf tag c = .ok v) :
    c = some v := by
  cases c <;> simp_all [contentOf]

theorem asTagged_eq_ok {what : String} {v : Json} {tag : String} {c : Option Json}
    (h : asTagged what v = .ok (tag, c)) : ∃ members, v = object members ∧
      Json.find? "t" members = some (string tag) ∧ Json.find? "c" members = c := by
  obtain ⟨members, hm, h⟩ := Decoded.bind_eq_ok.mp h
  refine ⟨members, asObject_eq_ok hm, ?_⟩
  split at h
  · rename_i htag
    cases h
    exact ⟨htag, rfl⟩
  · cases h

/-! ## Tuples -/

section Tuples

variable {what : String} {v a b c d e f : Json} (hv : v.WellFormed)

include hv

theorem normal_of_asPair (h : asPair what v = .ok (a, b)) : a.WellFormed ∧ b.WellFormed ∧
    normal .value v = array ([a, b].map (normal .value)) := by
  obtain rfl := asPair_eq_ok h
  have hwf := Json.wellFormed_array.mp hv
  exact ⟨hwf a (by simp), hwf b (by simp), Json.normal_array _⟩

theorem normal_of_asTriple (h : asTriple what v = .ok (a, b, c)) :
    a.WellFormed ∧ b.WellFormed ∧ c.WellFormed ∧
      normal .value v = array ([a, b, c].map (normal .value)) := by
  obtain rfl := asTriple_eq_ok h
  have hwf := Json.wellFormed_array.mp hv
  exact ⟨hwf a (by simp), hwf b (by simp), hwf c (by simp), Json.normal_array _⟩

theorem normal_of_asQuadruple (h : asQuadruple what v = .ok (a, b, c, d)) :
    a.WellFormed ∧ b.WellFormed ∧ c.WellFormed ∧ d.WellFormed ∧
      normal .value v = array ([a, b, c, d].map (normal .value)) := by
  obtain rfl := asQuadruple_eq_ok h
  have hwf := Json.wellFormed_array.mp hv
  exact ⟨hwf a (by simp), hwf b (by simp), hwf c (by simp), hwf d (by simp), Json.normal_array _⟩

theorem normal_of_asQuintuple (h : asQuintuple what v = .ok (a, b, c, d, e)) :
    a.WellFormed ∧ b.WellFormed ∧ c.WellFormed ∧ d.WellFormed ∧ e.WellFormed ∧
      normal .value v = array ([a, b, c, d, e].map (normal .value)) := by
  obtain rfl := asQuintuple_eq_ok h
  have hwf := Json.wellFormed_array.mp hv
  exact ⟨hwf a (by simp), hwf b (by simp), hwf c (by simp), hwf d (by simp), hwf e (by simp),
    Json.normal_array _⟩

theorem normal_of_asSextuple (h : asSextuple what v = .ok (a, b, c, d, e, f)) :
    a.WellFormed ∧ b.WellFormed ∧ c.WellFormed ∧ d.WellFormed ∧ e.WellFormed ∧ f.WellFormed ∧
      normal .value v = array ([a, b, c, d, e, f].map (normal .value)) := by
  obtain rfl := asSextuple_eq_ok h
  have hwf := Json.wellFormed_array.mp hv
  exact ⟨hwf a (by simp), hwf b (by simp), hwf c (by simp), hwf d (by simp), hwf e (by simp),
    hwf f (by simp), Json.normal_array _⟩

end Tuples

/-! ## Readers undone by writers -/

section Faithful

variable {α : Type} {p : Place} {read : Json → Decoded α} {write : α → Json} {good : α → Prop}

/-- What is read of a well-formed value is written as the normal form of the value, and is
`good`. -/
def Faithful (p : Place) (read : Json → Decoded α) (write : α → Json) (good : α → Prop) : Prop :=
  ∀ ⦃v : Json⦄ ⦃x : α⦄, v.WellFormed → read v = .ok x → write x = normal p v ∧ good x

theorem Faithful.mapM (h : Faithful p read write good) {vs : List Json} {xs : List α}
    (hvs : ∀ v ∈ vs, v.WellFormed) (hread : vs.mapM read = .ok xs) :
    xs.map write = vs.map (normal p) ∧ ∀ x ∈ xs, good x := by
  replace hread := Decoded.mapM_eq_ok.mp hread
  induction hread with
  | nil => simp
  | cons hx _ ih =>
    obtain ⟨hwrite, hgood⟩ := h (hvs _ List.mem_cons_self) hx
    obtain ⟨hwrites, hgoods⟩ := ih fun v hv => hvs v (List.mem_cons_of_mem _ hv)
    rw [List.map_cons, List.map_cons, hwrite, hwrites]
    exact ⟨rfl, List.forall_mem_cons.mpr ⟨hgood, hgoods⟩⟩

/-- **An array is undone item by item.** -/
theorem Faithful.array (h : Faithful .value read write good) (what : String) :
    Faithful .value (fun v => do (← asArray what v).mapM read)
      (fun xs => Json.array (xs.map write)) fun xs => ∀ x ∈ xs, good x := fun v xs hv hread => by
  obtain ⟨vs, hvs, hread⟩ := Decoded.bind_eq_ok.mp hread
  rw [asArray_eq_ok hvs] at hv ⊢
  obtain ⟨hwrite, hgood⟩ := h.mapM (Json.wellFormed_array.mp hv) hread
  rw [Json.normal_array, ← hwrite]
  exact ⟨rfl, hgood⟩

variable {β γ : Type} {read₂ : Json → Decoded β} {write₂ : β → Json} {good₂ : β → Prop}
  {read₃ : Json → Decoded γ} {write₃ : γ → Json} {good₃ : γ → Prop}

/-- **A pair is undone part by part.** -/
theorem Faithful.pair (h₁ : Faithful .value read write good)
    (h₂ : Faithful .value read₂ write₂ good₂) {what : String} {v a b : Json} {x : α} {y : β}
    (hv : v.WellFormed) (hab : asPair what v = .ok (a, b)) (hx : read a = .ok x)
    (hy : read₂ b = .ok y) :
    Json.array [write x, write₂ y] = normal .value v ∧ good x ∧ good₂ y := by
  obtain ⟨ha, hb, hnormal⟩ := normal_of_asPair hv hab
  obtain ⟨hwx, hgx⟩ := h₁ ha hx
  obtain ⟨hwy, hgy⟩ := h₂ hb hy
  rw [hnormal, hwx, hwy]
  exact ⟨rfl, hgx, hgy⟩

/-- **A triple is undone part by part.** -/
theorem Faithful.triple (h₁ : Faithful .value read write good)
    (h₂ : Faithful .value read₂ write₂ good₂) (h₃ : Faithful .value read₃ write₃ good₃)
    {what : String} {v a b c : Json} {x : α} {y : β} {z : γ} (hv : v.WellFormed)
    (habc : asTriple what v = .ok (a, b, c)) (hx : read a = .ok x) (hy : read₂ b = .ok y)
    (hz : read₃ c = .ok z) :
    Json.array [write x, write₂ y, write₃ z] = normal .value v ∧ good x ∧ good₂ y ∧ good₃ z := by
  obtain ⟨ha, hb, hc, hnormal⟩ := normal_of_asTriple hv habc
  obtain ⟨hwx, hgx⟩ := h₁ ha hx
  obtain ⟨hwy, hgy⟩ := h₂ hb hy
  obtain ⟨hwz, hgz⟩ := h₃ hc hz
  rw [hnormal, hwx, hwy, hwz]
  exact ⟨rfl, hgx, hgy, hgz⟩

end Faithful

/-! ## Tagged objects -/

/-- **The normal form of a tag that goes without content.** -/
theorem normal_of_asTagged_bare {what : String} {v : Json} {tag : String} {c : Option Json}
    (hv : v.WellFormed) (h : asTagged what v = .ok (tag, c)) (htag : tag ∈ bareTags) :
    normal .value v = bare tag := by
  obtain ⟨members, rfl, ht, -⟩ := asTagged_eq_ok h
  exact Json.normal_of_bare (Json.wellFormed_object.mp hv).1 ht htag

/-- **The normal form of a tag with its content**, which stands at a place of its own. -/
theorem normal_of_contentOf (p : Place) {what tag what' : String} {v w : Json} {c : Option Json}
    (hv : v.WellFormed) (h : asTagged what v = .ok (tag, c)) (hc : contentOf what' c = .ok w)
    (htag : tag ∉ bareTags ∧ Json.contentPlace tag = p) :
    w.WellFormed ∧ normal .value v = tagged tag (normal p w) := by
  obtain ⟨members, rfl, ht, hmember⟩ := asTagged_eq_ok h
  obtain rfl := contentOf_eq_ok hc
  obtain ⟨hbare, rfl⟩ := htag
  exact ⟨hv.find? hmember, Json.normal_of_content (Json.wellFormed_object.mp hv).1 ht hbare hmember⟩

section Content

variable {α β γ δ : Type} {read : Json → Decoded α} {write : α → Json} {good : α → Prop}
  {read₂ : Json → Decoded β} {write₂ : β → Json} {good₂ : β → Prop}
  {read₃ : Json → Decoded γ} {write₃ : γ → Json} {good₃ : γ → Prop}
  {what tag : String} {v : Json} {c : Option Json} {z : δ}

/-- **Content of one part is undone under its tag.** -/
theorem Faithful.content {mk : α → δ} (hread : Faithful .value read write good)
    (hv : v.WellFormed) (htag : asTagged what v = .ok (tag, c))
    (hplace : tag ∉ bareTags ∧ Json.contentPlace tag = .value)
    (h : (do
      let x ← read (← contentOf tag c)
      Except.ok (mk x)) = Except.ok z) :
    ∃ x, z = mk x ∧ tagged tag (write x) = normal .value v ∧ good x := by
  obtain ⟨w, hc, h⟩ := Decoded.bind_eq_ok.mp h
  obtain ⟨x, hx, h⟩ := Decoded.bind_eq_ok.mp h
  cases h
  obtain ⟨hwf, hnormal⟩ := normal_of_contentOf .value hv htag hc hplace
  obtain ⟨hwrite, hgood⟩ := hread hwf hx
  exact ⟨x, rfl, by rw [hnormal, hwrite], hgood⟩

/-- **Content of two parts is undone under its tag.** -/
theorem Faithful.contentPair {mk : α → β → δ} (h₁ : Faithful .value read write good)
    (h₂ : Faithful .value read₂ write₂ good₂) (hv : v.WellFormed)
    (htag : asTagged what v = .ok (tag, c))
    (hplace : tag ∉ bareTags ∧ Json.contentPlace tag = .value)
    (h : (do
      let (a, b) ← asPair tag (← contentOf tag c)
      let x ← read a
      let y ← read₂ b
      Except.ok (mk x y)) = Except.ok z) :
    ∃ x y, z = mk x y ∧ tagged tag (Json.array [write x, write₂ y]) = normal .value v ∧
      good x ∧ good₂ y := by
  obtain ⟨w, hc, h⟩ := Decoded.bind_eq_ok.mp h
  obtain ⟨⟨a, b⟩, hab, h⟩ := Decoded.bind_eq_ok.mp h
  obtain ⟨x, hx, h⟩ := Decoded.bind_eq_ok.mp h
  obtain ⟨y, hy, h⟩ := Decoded.bind_eq_ok.mp h
  cases h
  obtain ⟨hwf, hnormal⟩ := normal_of_contentOf .value hv htag hc hplace
  obtain ⟨hwrite, hgood⟩ := h₁.pair h₂ hwf hab hx hy
  exact ⟨x, y, rfl, by rw [hnormal, hwrite], hgood⟩

/-- **Content of three parts is undone under its tag.** -/
theorem Faithful.contentTriple {mk : α → β → γ → δ} (h₁ : Faithful .value read write good)
    (h₂ : Faithful .value read₂ write₂ good₂) (h₃ : Faithful .value read₃ write₃ good₃)
    (hv : v.WellFormed) (htag : asTagged what v = .ok (tag, c))
    (hplace : tag ∉ bareTags ∧ Json.contentPlace tag = .value)
    (h : (do
      let (a, b, d) ← asTriple tag (← contentOf tag c)
      let x ← read a
      let y ← read₂ b
      let z ← read₃ d
      Except.ok (mk x y z)) = Except.ok z) :
    ∃ x y t, z = mk x y t ∧
      tagged tag (Json.array [write x, write₂ y, write₃ t]) = normal .value v ∧
      good x ∧ good₂ y ∧ good₃ t := by
  obtain ⟨w, hc, h⟩ := Decoded.bind_eq_ok.mp h
  obtain ⟨⟨a, b, d⟩, habd, h⟩ := Decoded.bind_eq_ok.mp h
  obtain ⟨x, hx, h⟩ := Decoded.bind_eq_ok.mp h
  obtain ⟨y, hy, h⟩ := Decoded.bind_eq_ok.mp h
  obtain ⟨t, ht, h⟩ := Decoded.bind_eq_ok.mp h
  cases h
  obtain ⟨hwf, hnormal⟩ := normal_of_contentOf .value hv htag hc hplace
  obtain ⟨hwrite, hgood⟩ := h₁.triple h₂ h₃ hwf habd hx hy ht
  exact ⟨x, y, t, rfl, by rw [hnormal, hwrite], hgood⟩

end Content

end DeckFilter
