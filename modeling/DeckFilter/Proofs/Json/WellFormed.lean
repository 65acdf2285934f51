import DeckFilter.Json
import Mathlib.Data.List.Forall2

/-!
# Well-formed JSON values

The members of an object stand in ascending order of their keys, one for each key, and a number is
an integer of 64 bits, with or without a sign, or a finite binary64 number.

* `Json.Ascending`: the order of members, with `Json.Ascending.ext` (members in order are determined
  by their look-ups) and `Json.ofMembers_eq` (members in order are written as they are);
* `Json.WellFormed`: the values, with `Json.WellFormed.find?`;
* `Json.depthItems_le`, `Json.depthMembers_le`: depth, item by item and member by member, with
  `Json.depth_lt_array`, `Json.depth_lt_object`.
-/

namespace DeckFilter

namespace Json

/-! ## Members in order -/

/-- Members in ascending order of their keys, so that every key has one member. -/
def Ascending {α : Type} (members : List (String × α)) : Prop :=
  members.Pairwise fun m n => m.1 < n.1

theorem ascending_pair {α : Type} {k l : String} (x y : α) (h : k < l) :
    Ascending [(k, x), (l, y)] :=
  List.pairwise_pair.mpr h

theorem ascending_triple {α : Type} {k l m : String} (x y z : α) (h : k < l) (h' : l < m) :
    Ascending [(k, x), (l, y), (m, z)] := by
  refine List.pairwise_cons.mpr ⟨fun p hp => ?_, ascending_pair y z h'⟩
  simp only [List.mem_cons, List.not_mem_nil, or_false] at hp
  rcases hp with rfl | rfl
  · exact h
  · exact String.lt_trans h h'

theorem mem_of_find? {k : String} {v : Json} :
    ∀ {members : List (String × Json)}, find? k members = some v → (k, v) ∈ members
  | (k', v') :: rest, h => by
    by_cases hk : k' = k
    · simp only [find?, hk, if_true, Option.some.injEq] at h
      rw [hk, h]
      exact List.mem_cons_self
    · simp only [find?, hk, if_false] at h
      exact List.mem_cons_of_mem _ (mem_of_find? h)

theorem find?_eq_none {k : String} :
    ∀ {members : List (String × Json)}, (∀ m ∈ members, m.1 ≠ k) → find? k members = none
  | [], _ => rfl
  | (k', v') :: rest, h => by
    have hk : k' ≠ k := h (k', v') List.mem_cons_self
    simp only [find?, hk, if_false]
    exact find?_eq_none fun m hm => h m (List.mem_cons_of_mem _ hm)

theorem find?_of_forall_lt {k : String} {members : List (String × Json)}
    (h : ∀ m ∈ members, k < m.1) : find? k members = none :=
  find?_eq_none fun m hm e => String.lt_irrefl k (by simpa [e] using h m hm)

/-- **Members in order are determined by their look-ups.** -/
theorem Ascending.ext : ∀ {ms ns : List (String × Json)}, Ascending ms → Ascending ns →
    (∀ k, find? k ms = find? k ns) → ms = ns
  | [], [], _, _, _ => rfl
  | [], (k, v) :: ns, _, _, h => by simpa [find?] using h k
  | (k, v) :: ms, [], _, _, h => by simpa [find?] using h k
  | (k, v) :: ms, (l, w) :: ns, hm, hn, h => by
    obtain ⟨hk, hms⟩ := List.pairwise_cons.mp hm
    obtain ⟨hl, hns⟩ := List.pairwise_cons.mp hn
    rcases Std.lt_trichotomy k l with hkl | rfl | hlk
    · have hnone : find? k ((l, w) :: ns) = none := find?_of_forall_lt fun m hm => by
        rcases List.mem_cons.mp hm with rfl | hm
        · exact hkl
        · exact String.lt_trans hkl (hl m hm)
      have := h k
      rw [hnone] at this
      simp [find?] at this
    · have hvw : v = w := by simpa [find?] using h k
      have htail : ms = ns := Ascending.ext hms hns fun j => by
        by_cases hj : k = j
        · subst hj
          rw [find?_of_forall_lt hk, find?_of_forall_lt hl]
        · simpa [find?, hj] using h j
      rw [hvw, htail]
    · have hnone : find? l ((k, v) :: ms) = none := find?_of_forall_lt fun m hm => by
        rcases List.mem_cons.mp hm with rfl | hm
        · exact hlk
        · exact String.lt_trans hlk (hk m hm)
      have := h l
      rw [hnone] at this
      simp [find?] at this

theorem Ascending.find?_of_mem : ∀ {members : List (String × Json)}, Ascending members →
    ∀ {m : String × Json}, m ∈ members → find? m.1 members = some m.2
  | (k, v) :: rest, h, m, hm => by
    obtain ⟨hlt, hrest⟩ := List.pairwise_cons.mp h
    rcases List.mem_cons.mp hm with rfl | hm
    · rw [find?, if_pos rfl]
    · have hk : k ≠ m.1 := fun hk => String.lt_irrefl m.1 (hk ▸ hlt m hm)
      rw [find?, if_neg hk, find?_of_mem hrest hm]

/-! ## Putting members in place -/

theorem find?_insert (k : String) (v : Json) (j : String) :
    ∀ members : List (String × Json),
      find? j (insert k v members) = if k = j then some v else find? j members
  | [] => rfl
  | (k', v') :: rest => by
    simp only [insert]
    split_ifs with h₁ h₂ h₃ h₄ h₅
    · simp [find?, h₂]
    · subst h₁
      simp [find?, h₂]
    · simp [find?, h₄]
    · simp [find?, h₄]
    · subst h₅
      simp only [find?, Ne.symm h₁, if_false, find?_insert k v k rest, if_true]
    · simp only [find?, find?_insert k v j rest, h₅, if_false]

theorem mem_insert {k : String} {v : Json} {m : String × Json} :
    ∀ {members : List (String × Json)}, m ∈ insert k v members → m = (k, v) ∨ m ∈ members
  | [], h => Or.inl (List.mem_singleton.mp h)
  | (k', v') :: rest, h => by
    simp only [insert] at h
    split_ifs at h
    · rcases List.mem_cons.mp h with h | h
      · exact Or.inl h
      · exact Or.inr (List.mem_cons_of_mem _ h)
    · exact List.mem_cons.mp h
    · rcases List.mem_cons.mp h with h | h
      · exact Or.inr (h ▸ List.mem_cons_self)
      · exact (mem_insert h).imp_right (List.mem_cons_of_mem _)

theorem Ascending.insert (k : String) (v : Json) :
    ∀ {members : List (String × Json)}, Ascending members → Ascending (insert k v members)
  | [], _ => List.pairwise_singleton _ _
  | (k', v') :: rest, h => by
    obtain ⟨hk, hrest⟩ := List.pairwise_cons.mp h
    simp only [Json.insert]
    split_ifs with h₁ h₂
    · exact List.pairwise_cons.mpr ⟨h₁ ▸ hk, hrest⟩
    · refine List.pairwise_cons.mpr ⟨fun m hm => ?_, h⟩
      rcases List.mem_cons.mp hm with rfl | hm
      · exact h₂
      · exact String.lt_trans h₂ (hk m hm)
    · refine List.pairwise_cons.mpr ⟨fun m hm => ?_, Ascending.insert k v hrest⟩
      rcases mem_insert hm with rfl | hm
      · rcases Std.lt_trichotomy k k' with h | h | h
        · exact absurd h h₂
        · exact absurd h h₁
        · exact h
      · exact hk m hm

theorem insert_of_forall_lt {k : String} {v : Json} :
    ∀ {members : List (String × Json)}, (∀ m ∈ members, m.1 < k) →
      insert k v members = members ++ [(k, v)]
  | [], _ => rfl
  | (k', v') :: rest, h => by
    have hk : k' < k := h (k', v') List.mem_cons_self
    have h₁ : k ≠ k' := fun e => String.lt_irrefl k' (e ▸ hk)
    have h₂ : ¬ k < k' := fun h' => String.lt_irrefl k (String.lt_trans h' hk)
    simp only [insert, h₁, h₂, if_false, List.cons_append]
    rw [insert_of_forall_lt fun m hm => h m (List.mem_cons_of_mem _ hm)]

theorem foldl_insert_of_ascending : ∀ (members acc : List (String × Json)),
    Ascending (acc ++ members) →
      members.foldl (fun ms m => insert m.1 m.2 ms) acc = acc ++ members
  | [], acc, _ => (List.append_nil acc).symm
  | (k, v) :: rest, acc, h => by
    have hlt : ∀ m ∈ acc, m.1 < k := fun m hm =>
      (List.pairwise_append.mp h).2.2 m hm (k, v) List.mem_cons_self
    rw [List.foldl_cons, insert_of_forall_lt hlt,
      foldl_insert_of_ascending rest (acc ++ [(k, v)]) (by simpa using h), List.append_assoc]
    rfl

/-- **Members in order make up their object as they are.** -/
theorem ofMembers_eq {members : List (String × Json)} (h : Ascending members) :
    ofMembers members = object members := by
  rw [ofMembers, foldl_insert_of_ascending members [] h, List.nil_append]

theorem foldl_insert_ascending : ∀ (members : List (String × Json)) {acc : List (String × Json)},
    Ascending acc → Ascending (members.foldl (fun ms m => insert m.1 m.2 ms) acc)
  | [], _, h => h
  | (k, v) :: rest, _, h => foldl_insert_ascending rest (h.insert k v)

theorem mem_foldl_insert {m : String × Json} : ∀ (members : List (String × Json))
    {acc : List (String × Json)}, m ∈ members.foldl (fun ms m => insert m.1 m.2 ms) acc →
      m ∈ members ∨ m ∈ acc
  | [], _, h => Or.inr h
  | (k, v) :: rest, acc, h => by
    rcases mem_foldl_insert rest h with h | h
    · exact Or.inl (List.mem_cons_of_mem _ h)
    · rcases mem_insert h with rfl | h
      · exact Or.inl List.mem_cons_self
      · exact Or.inr h

/-! ## Well-formed values -/

/-- An integer fits in 64 bits, with or without a sign, and a binary64 number is finite. -/
def Number.WellFormed : Number → Prop
  | .integer n => Int64.minValue.toInt ≤ n ∧ n < UInt64.size
  | .double x => x.isFinite

mutual

/-- The numbers of a value are well-formed, and the members of every object stand in order. -/
def WellFormed : Json → Prop
  | number n => n.WellFormed
  | array items => itemsWellFormed items
  | object members => Ascending members ∧ membersWellFormed members
  | _ => True

/-- All items of an array are well-formed. -/
def itemsWellFormed : List Json → Prop
  | [] => True
  | v :: rest => v.WellFormed ∧ itemsWellFormed rest

/-- All members of an object are well-formed. -/
def membersWellFormed : List (String × Json) → Prop
  | [] => True
  | (_, v) :: rest => v.WellFormed ∧ membersWellFormed rest

end

theorem itemsWellFormed_iff : ∀ {items : List Json},
    itemsWellFormed items ↔ ∀ v ∈ items, v.WellFormed
  | [] => by simp [itemsWellFormed]
  | v :: rest => by simp [itemsWellFormed, @itemsWellFormed_iff rest]

theorem membersWellFormed_iff : ∀ {members : List (String × Json)},
    membersWellFormed members ↔ ∀ m ∈ members, m.2.WellFormed
  | [] => by simp [membersWellFormed]
  | (k, v) :: rest => by simp [membersWellFormed, @membersWellFormed_iff rest]

theorem wellFormed_array {items : List Json} :
    (array items).WellFormed ↔ ∀ v ∈ items, v.WellFormed := by
  rw [WellFormed, itemsWellFormed_iff]

theorem wellFormed_object {members : List (String × Json)} :
    (object members).WellFormed ↔ Ascending members ∧ ∀ m ∈ members, m.2.WellFormed := by
  rw [WellFormed, membersWellFormed_iff]

theorem WellFormed.find? {members : List (String × Json)} {k : String} {v : Json}
    (h : (object members).WellFormed) (hv : Json.find? k members = some v) : v.WellFormed :=
  (wellFormed_object.mp h).2 _ (mem_of_find? hv)

theorem wellFormed_ofMembers {members : List (String × Json)}
    (h : ∀ m ∈ members, m.2.WellFormed) : (ofMembers members).WellFormed := by
  refine wellFormed_object.mpr ⟨foldl_insert_ascending members List.Pairwise.nil, fun m hm => ?_⟩
  rcases mem_foldl_insert members hm with hm | hm
  · exact h m hm
  · exact absurd hm List.not_mem_nil

/-! ## Depth -/

theorem depthItems_le {n : Nat} : ∀ {items : List Json},
    depthItems items ≤ n ↔ ∀ v ∈ items, v.depth ≤ n
  | [] => by simp [depthItems]
  | v :: rest => by
    rw [depthItems, Nat.max_le, depthItems_le]
    simp

theorem depthMembers_le {n : Nat} : ∀ {members : List (String × Json)},
    depthMembers members ≤ n ↔ ∀ m ∈ members, m.2.depth ≤ n
  | [] => by simp [depthMembers]
  | (k, v) :: rest => by
    rw [depthMembers, Nat.max_le, depthMembers_le]
    simp

theorem depth_le_depthItems {v : Json} {items : List Json} (h : v ∈ items) :
    v.depth ≤ depthItems items :=
  depthItems_le.mp (Nat.le_refl _) v h

theorem depth_le_depthMembers {m : String × Json} {members : List (String × Json)}
    (h : m ∈ members) : m.2.depth ≤ depthMembers members :=
  depthMembers_le.mp (Nat.le_refl _) m h

theorem depth_lt_array {v : Json} {items : List Json} (h : v ∈ items) :
    v.depth < (array items).depth := by
  have := depth_le_depthItems h
  rw [depth]
  omega

theorem depth_lt_object {m : String × Json} {members : List (String × Json)} (h : m ∈ members) :
    m.2.depth < (object members).depth := by
  have := depth_le_depthMembers h
  rw [depth]
  omega

end Json

end DeckFilter
