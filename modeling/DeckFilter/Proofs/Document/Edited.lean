import DeckFilter.Proofs.Document.Breaks

/-!
# Rejected values in place of nodes

If nodes of a value give way to values that are rejected, none of them inside another, the outcome
is alike but for these nodes, and the first error is that of the first position.

* `Json.Edits.Spoil`: such values, with `Json.Edits.Spoil.below`;
* `Json.Edits.First`: the first error among some positions, with `Json.Edits.First.or`;
* `Traced`: values that stay alike, with `Traced.each`, `Traced.tuple`, `Traced.entries`,
  `Traced.citation`;
* `ContentAlike.of_spoil`: the content of a node.
-/

namespace DeckFilter

namespace Json.Edits

variable {edits : Edits} {nodeAt nodeAt' : Path → NodeKind → Prop}

/-! ## Edits of nodes -/

/-- Every edit is of a node, by a value that its reader rejects, and none is inside another. -/
structure Spoil (edits : Edits) (nodeAt : Path → NodeKind → Prop) : Prop where
  rejected : ∀ {p w e}, edits p = some (w, e) → ∃ k, nodeAt p k ∧ k.Rejects w e
  apart : ∀ {p q}, (edits p).isSome → (edits q).isSome → p <+: q → p = q

theorem Spoil.below (s : Step) (h : edits.Spoil nodeAt)
    (hnode : ∀ p k, nodeAt (s :: p) k → nodeAt' p k) : (edits.below s).Spoil nodeAt' where
  rejected := by
    intro p w e hp
    obtain ⟨k, hk, hrejects⟩ := h.rejected hp
    exact ⟨k, hnode p k hk, hrejects⟩
  apart := by
    intro p q hp hq hprefix
    exact (List.cons.inj (h.apart hp hq (List.prefix_cons_inj s |>.mpr hprefix))).2

theorem Spoil.exists_node {p : Path} (h : edits.Spoil nodeAt) (hp : (edits p).isSome) :
    ∃ k, nodeAt p k := by
  obtain ⟨⟨w, e⟩, hedit⟩ := Option.isSome_iff_exists.mp hp
  obtain ⟨k, hk, -⟩ := h.rejected hedit
  exact ⟨k, hk⟩

theorem Spoil.eq_none {p : Path} (h : edits.Spoil nodeAt) (hp : ∀ k, ¬nodeAt p k) :
    edits p = none := by
  by_contra hne
  obtain ⟨k, hk⟩ := h.exists_node (Option.isSome_iff_ne_none.mpr hne)
  exact hp k hk

theorem Spoil.alone {x : Json × DecodeError} {p : Path} (h : edits.Spoil nodeAt)
    (hx : edits [] = some x) (hp : (edits p).isSome) : p = [] :=
  (h.apart (by rw [hx]; rfl) hp (List.nil_prefix)).symm

/-! ## The first edit -/

variable {R : Path → Path → Prop} {P Q : Path → Prop} {o o' : Option DecodeError}

/-- The error of the first edit, in the order `R`, at the positions `P`; there is no error if there
is no edit. -/
def First (R : Path → Path → Prop) (P : Path → Prop) (edits : Edits) : Option DecodeError → Prop
  | none => ∀ p, P p → edits p = none
  | some e => ∃ p w, P p ∧ edits p = some (w, e) ∧
      ∀ q, P q → (edits q).isSome → q ≠ p → R p q

/-- **Of positions before others, the first edit is the first of all**, if there is one. -/
theorem First.or (hP : edits.First R P o) (hQ : edits.First R Q o')
    (hPQ : ∀ p q, P p → Q q → R p q) : edits.First R (fun p => P p ∨ Q p) (o.or o') := by
  cases o with
  | some e =>
    obtain ⟨p, w, hp, hedit, hfirst⟩ := hP
    refine ⟨p, w, .inl hp, hedit, fun q hq hsome hne => ?_⟩
    rcases hq with hq | hq
    · exact hfirst q hq hsome hne
    · exact hPQ p q hp hq
  | none =>
    cases o' with
    | none => exact fun p hp => hp.elim (hP p) (hQ p)
    | some e =>
      obtain ⟨p, w, hp, hedit, hfirst⟩ := hQ
      refine ⟨p, w, .inr hp, hedit, fun q hq hsome hne => ?_⟩
      rcases hq with hq | hq
      · rw [hP q hq] at hsome
        cases hsome
      · exact hfirst q hq hsome hne

theorem First.congr (h : edits.First R P o) (hPQ : ∀ p, (edits p).isSome → (P p ↔ Q p)) :
    edits.First R Q o := by
  cases o with
  | none =>
    intro p hp
    by_contra hne
    have hsome : (edits p).isSome := Option.isSome_iff_ne_none.mpr hne
    exact hne (h p ((hPQ p hsome).mpr hp))
  | some e =>
    obtain ⟨p, w, hp, hedit, hfirst⟩ := h
    have hsome : (edits p).isSome := by rw [hedit]; rfl
    exact ⟨p, w, (hPQ p hsome).mp hp, hedit, fun q hq hq' => hfirst q ((hPQ q hq').mpr hq) hq'⟩

theorem First.below {s : Step} {R' : Path → Path → Prop}
    (h : (edits.below s).First R (fun _ => True) o)
    (hR : ∀ p q, R p q → R' (s :: p) (s :: q)) :
    edits.First R' (fun p => p.head? = some s) o := by
  cases o with
  | none =>
    intro p hp
    obtain ⟨q, rfl⟩ := List.head?_eq_some_iff.mp hp
    exact h q trivial
  | some e =>
    obtain ⟨p, w, -, hedit, hfirst⟩ := h
    refine ⟨s :: p, w, rfl, hedit, fun q hq hsome hne => ?_⟩
    obtain ⟨q, rfl⟩ := List.head?_eq_some_iff.mp hq
    exact hR p q (hfirst q trivial hsome fun hpq => hne (hpq ▸ rfl))

end Json.Edits

open Json (Edits Step Path Before)

variable {L : NodeKind → Json → Json → Option DecodeError → Prop} {edits : Edits} {l : Layout}
  {v : Json} {o : Option DecodeError}

/-! ## Positions without nodes -/

namespace Layout

theorem not_readAt_member {members : List (String × Json)} {key : String} {p : Path} {k : NodeKind}
    (h : l.member members key = leaf) : ¬l.ReadAt (.object members) (.member key :: p) k := by
  rintro (_ | _ | ⟨_, hread⟩)
  rw [h] at hread
  exact not_readAt_leaf hread

theorem not_readAt_of_misfit {p : Path} {k : NodeKind} (h : ¬l.Fits v) : ¬l.ReadAt v p k := by
  intro hread
  cases hread with
  | here => exact h trivial
  | item hv hread =>
    cases l with
    | leaf | node => exact h trivial
    | each | tuple => exact h trivial
    | entries | citation => exact not_readAt_leaf hread
  | member hv hread =>
    cases l with
    | leaf | node => exact h trivial
    | each | tuple => exact not_readAt_leaf hread
    | entries | citation => exact h trivial

end Layout

/-! ## Lists -/

/-- What edits below a step leave of a value, and the first of their errors. -/
def TracedBelow (L : NodeKind → Json → Json → Option DecodeError → Prop) (edits : Edits) (s : Step)
    (l : Layout) (v : Json) : Prop :=
  ∃ o, Alike L l v (v.patch (edits.below s)) o ∧ edits.First Before (fun p => p.head? = some s) o

theorem ItemsAlike.of_below : ∀ (items : List Json) (i : Nat),
    (∀ j w, items[j]? = some w → TracedBelow L edits (.item (i + j)) (l.item (i + j)) w) →
      ∃ o, ItemsAlike L l i items (Json.patchItems i items edits) o ∧
        edits.First Before
          (fun p => ∃ j, i ≤ j ∧ j < i + items.length ∧ p.head? = some (.item j)) o
  | [], i, _ => ⟨none, .nil l i, fun p hp => by grind⟩
  | w :: rest, i, h => by
    obtain ⟨o, hlike, hfirst⟩ := h 0 w rfl
    obtain ⟨o', hrest, hfirst'⟩ := ItemsAlike.of_below rest (i + 1) fun j x hx => by
      rw [Nat.add_right_comm]
      exact h (j + 1) x hx
    refine ⟨o.or o', .cons hlike hrest, (hfirst.or hfirst' fun p q hp hq => ?_).congr fun p _ => ?_⟩
    · obtain ⟨j, hij, -, hq⟩ := hq
      exact .of_items hp hq (by omega)
    · constructor
      · rintro (hp | ⟨j, hij, hj, hp⟩)
        · exact ⟨i, by omega, by simp, hp⟩
        · exact ⟨j, by omega, by rw [List.length_cons]; omega, hp⟩
      · rintro ⟨j, hij, hj, hp⟩
        rcases Nat.eq_or_lt_of_le hij with rfl | hlt
        · exact .inl hp
        · exact .inr ⟨j, hlt, by rw [List.length_cons] at hj; omega, hp⟩

theorem MembersAlike.of_below : ∀ {members : List (String × Json)}, Json.Ascending members →
    (∀ m ∈ members, TracedBelow L edits (.member m.1) l m.2) →
      ∃ o, MembersAlike L l members (Json.patchMembers members edits) o ∧
        edits.First Before (fun p => ∃ m ∈ members, p.head? = some (.member m.1)) o
  | [], _, _ => ⟨none, .nil l, fun p hp => by grind⟩
  | (key, w) :: rest, hasc, h => by
    obtain ⟨hlt, hasc⟩ := List.pairwise_cons.mp hasc
    obtain ⟨o, hlike, hfirst⟩ := h (key, w) List.mem_cons_self
    obtain ⟨o', hrest, hfirst'⟩ :=
      MembersAlike.of_below hasc fun m hm => h m (List.mem_cons_of_mem _ hm)
    refine ⟨o.or o', .cons hlike hrest, (hfirst.or hfirst' fun p q hp hq => ?_).congr fun p _ => ?_⟩
    · obtain ⟨m, hm, hq⟩ := hq
      exact .of_members hp hq (hlt m hm)
    · simp only [List.exists_mem_cons_iff]

/-! ## Values of a layout -/

/-- If nodes of a value are spoiled, it is alike but for these, up to the first of them. -/
def Traced (L : NodeKind → Json → Json → Option DecodeError → Prop) (l : Layout) (v : Json) :
    Prop :=
  ∀ edits : Edits, edits.Spoil (l.ReadAt v) →
    ∃ o, Alike L l v (v.patch edits) o ∧ edits.First Before (fun _ => True) o

theorem Traced.of_empty (hnode : ∀ p k, ¬l.ReadAt v p k) (hlike : Alike L l v v none) :
    Traced L l v := by
  intro edits h
  have hnone (p : Path) : edits p = none := h.eq_none (hnode p)
  rw [Json.patch_none hnone]
  exact ⟨none, hlike, fun p _ => hnone p⟩

theorem Traced.leaf (v : Json) : Traced L .leaf v :=
  .of_empty (fun _ _ => Layout.not_readAt_leaf) (.leaf v)

theorem Traced.misfit (h : ¬l.Fits v) : Traced L l v :=
  .of_empty (fun _ _ => Layout.not_readAt_of_misfit h) (.misfit h)

theorem Traced.below {s : Step} (h : Traced L l v) (hedits : (edits.below s).Spoil (l.ReadAt v)) :
    TracedBelow L edits s l v := by
  obtain ⟨o, hlike, hfirst⟩ := h _ hedits
  exact ⟨o, hlike, hfirst.below fun _ _ => .deeper _⟩

theorem Json.Edits.Spoil.item {items : List Json} {i : Nat}
    (h : edits.Spoil (l.ReadAt (.array items))) (hv : items[i]? = some v) :
    (edits.below (.item i)).Spoil ((l.item i).ReadAt v) :=
  h.below _ fun p k hread => by
    obtain _ | ⟨hw, hread⟩ := hread
    rw [hv] at hw
    cases hw
    exact hread

theorem Json.Edits.Spoil.member {members : List (String × Json)} {key : String}
    (h : edits.Spoil (l.ReadAt (.object members))) (hv : Json.find? key members = some v) :
    (edits.below (.member key)).Spoil ((l.member members key).ReadAt v) :=
  h.below _ fun p k hread => by
    obtain _ | _ | ⟨hw, hread⟩ := hread
    rw [hv] at hw
    cases hw
    exact hread

theorem Json.Edits.Spoil.eq_none_nil (h : edits.Spoil (l.ReadAt v)) (hl : ∀ k, l ≠ .node k) :
    edits [] = none :=
  h.eq_none fun k hread => by
    cases hread
    exact hl k rfl

theorem Traced.items {items : List Json} (h : ∀ i w, items[i]? = some w → Traced L (l.item i) w)
    (hedits : edits.Spoil (l.ReadAt (.array items))) (hl : ∀ k, l ≠ .node k) :
    ∃ o, ItemsAlike L l 0 items (Json.patchItems 0 items edits) o ∧
      edits.First Before (fun _ => True) o := by
  obtain ⟨o, hlike, hfirst⟩ := ItemsAlike.of_below (L := L) (l := l) items 0 fun j w hw => by
    rw [Nat.zero_add]
    exact (h j w hw).below (hedits.item hw)
  refine ⟨o, hlike, hfirst.congr fun p hp => iff_of_true ?_ trivial⟩
  obtain ⟨k, hread⟩ := hedits.exists_node hp
  cases hread with
  | here => exact absurd rfl (hl _)
  | item hv => exact ⟨_, Nat.zero_le _, by grind, rfl⟩

theorem Traced.each {items : List Json} (h : ∀ w ∈ items, Traced L l w) :
    Traced L (.each l) (.array items) := by
  intro edits hedits
  obtain ⟨o, hlike, hfirst⟩ :=
    Traced.items (fun i w hw => h w (List.mem_of_getElem? hw)) hedits (by simp)
  rw [Json.patch_array (hedits.eq_none_nil (by simp))]
  exact ⟨o, .each hlike, hfirst⟩

theorem Traced.tuple {ls : List Layout} {items : List Json}
    (h : ∀ l, ∀ w ∈ items, Traced L l w) : Traced L (.tuple ls) (.array items) := by
  intro edits hedits
  obtain ⟨o, hlike, hfirst⟩ :=
    Traced.items (fun i w hw => h _ w (List.mem_of_getElem? hw)) hedits (by simp)
  rw [Json.patch_array (hedits.eq_none_nil (by simp))]
  exact ⟨o, .tuple hlike, hfirst⟩

/-- **Members are read one after another.** -/
theorem Traced.entries {members : List (String × Json)} (hasc : Json.Ascending members)
    (h : ∀ m ∈ members, Traced L l m.2) : Traced L (.entries l) (.object members) := by
  intro edits hedits
  have hbelow (m : String × Json) (hm : m ∈ members) : TracedBelow L edits (.member m.1) l m.2 :=
    (h m hm).below (hedits.member (hasc.find?_of_mem hm))
  obtain ⟨o, hlike, hfirst⟩ := MembersAlike.of_below hasc hbelow
  rw [Json.patch_object (hedits.eq_none_nil (by simp))]
  refine ⟨o, .entries hlike, hfirst.congr fun p hp => iff_of_true ?_ trivial⟩
  obtain ⟨k, hread⟩ := hedits.exists_node hp
  cases hread with
  | member hv => exact ⟨_, Json.mem_of_find? hv, rfl⟩

theorem Traced.field {R : Path → Path → Prop} {members : List (String × Json)} {key : String}
    (hthere : ∀ w, Json.find? key members = some w →
      Traced L l w ∧ (edits.below (.member key)).Spoil (l.ReadAt w))
    (hnone : Json.find? key members = none → ∀ p, edits (.member key :: p) = none)
    (hR : ∀ p q, Before p q → R (.member key :: p) (.member key :: q)) :
    ∃ o, FieldAlike L l (Json.find? key members)
        (Json.find? key (Json.patchMembers members edits)) o ∧
      edits.First R (fun p => p.head? = some (.member key)) o := by
  rw [Json.find?_patchMembers]
  cases hw : Json.find? key members with
  | none =>
    refine ⟨none, .none l, fun p hp => ?_⟩
    obtain ⟨q, rfl⟩ := List.head?_eq_some_iff.mp hp
    exact hnone hw q
  | some w =>
    obtain ⟨htraced, hedits⟩ := hthere w hw
    obtain ⟨o, hlike, hfirst⟩ := htraced _ hedits
    exact ⟨o, .some hlike, hfirst.below hR⟩

/-- **The texts of a citation are read one after another.** -/
theorem Traced.citation {members : List (String × Json)}
    (h : ∀ m ∈ members, Traced L .inlines m.2) : Traced L .citation (.object members) := by
  intro edits hedits
  have hother (key : String) (hkey : key ≠ "citationPrefix") (hkey' : key ≠ "citationSuffix")
      (p : Path) : edits (.member key :: p) = none :=
    hedits.eq_none fun k => Layout.not_readAt_member (by simp [Layout.member, hkey, hkey'])
  have htext (key : String) (hkey : key = "citationPrefix" ∨ key = "citationSuffix") :
      ∃ o, FieldAlike L .inlines (Json.find? key members)
          (Json.find? key (Json.patchMembers members edits)) o ∧
        edits.First Before (fun p => p.head? = some (.member key)) o := by
    have hlayout : Layout.member .citation members key = .inlines := by simp [Layout.member, hkey]
    refine Traced.field (fun w hw => ⟨h _ (Json.mem_of_find? hw), ?_⟩) (fun hw p => ?_)
      fun _ _ => .deeper _
    · rw [← hlayout]
      exact hedits.member hw
    · refine hedits.eq_none fun k hread => ?_
      obtain _ | _ | ⟨hw', -⟩ := hread
      rw [hw] at hw'
      cases hw'
  obtain ⟨o₁, hbefore, hfirst₁⟩ := htext "citationPrefix" (.inl rfl)
  obtain ⟨o₂, hafter, hfirst₂⟩ := htext "citationSuffix" (.inr rfl)
  rw [Json.patch_object (hedits.eq_none_nil (by simp))]
  refine ⟨o₁.or o₂, .citation (fun key hkey hkey' => ?_) hbefore hafter,
    (hfirst₁.or hfirst₂ fun p q hp hq => ?_).congr fun p hp => iff_of_true ?_ trivial⟩
  · exact Json.find?_patchMembers_of_none (hother key hkey hkey')
  · exact .of_members hp hq (by decide)
  · obtain ⟨k, hread⟩ := hedits.exists_node hp
    cases hread with
    | @member _ _ key _ q _ hv =>
      by_contra hkey
      rw [hother key (by rintro rfl; exact hkey (.inl rfl)) (by rintro rfl; exact hkey (.inr rfl))]
        at hp
      cases hp

theorem Traced.of_parts (hwf : v.WellFormed) (hnode : ∀ k, Traced L (.node k) v)
    (hitems : ∀ items, v = .array items → ∀ w ∈ items, ∀ l, Traced L l w)
    (hmembers : ∀ members, v = .object members → ∀ m ∈ members, ∀ l, Traced L l m.2) :
    ∀ l, Traced L l v
  | .leaf => .leaf v
  | .node k => hnode k
  | .each l => by
    cases v with
    | array items => exact .each fun w hw => hitems items rfl w hw l
    | _ => exact .misfit id
  | .tuple ls => by
    cases v with
    | array items => exact .tuple fun l w hw => hitems items rfl w hw l
    | _ => exact .misfit id
  | .entries l => by
    cases v with
    | object members =>
      exact .entries (Json.wellFormed_object.mp hwf).1 fun m hm => hmembers members rfl m hm l
    | _ => exact .misfit id
  | .citation => by
    cases v with
    | object members => exact .citation fun m hm => hmembers members rfl m hm .inlines
    | _ => exact .misfit id

/-! ## Nodes -/

theorem Layout.member_node (k : NodeKind) (members : List (String × Json)) (key : String) :
    (Layout.node k).member members key = .leaf ∨ key = "c" ∧ ∃ tag,
      Json.find? "t" members = some (.string tag) ∧
        (Layout.node k).member members key = k.content tag := by
  simp only [Layout.member]
  split
  · exact .inr ⟨rfl, _, ‹_›, rfl⟩
  · exact .inl rfl

theorem Layout.ReadAt.exists_content {k k' : NodeKind} {p : Path}
    (h : (Layout.node k).ReadAt v p k') (hp : p ≠ []) :
    (∃ tag c, v.HasContent tag c) ∧ p.head? = some (.member "c") := by
  cases h with
  | here => exact absurd rfl hp
  | item hv hread => exact absurd hread Layout.not_readAt_leaf
  | @member _ members key c _ _ hv hread =>
    rcases Layout.member_node k members key with hleaf | ⟨rfl, tag, htag, -⟩
    · rw [hleaf] at hread
      exact absurd hread Layout.not_readAt_leaf
    · exact ⟨⟨tag, c, members, rfl, htag, hv⟩, rfl⟩

/-- **Nodes are read down to their content.** -/
theorem ContentAlike.of_spoil {k : NodeKind} (hedits : edits.Spoil ((Layout.node k).ReadAt v))
    (hnil : edits [] = none) (h : ∀ tag c, v.HasContent tag c → Traced L (k.content tag) c) :
    ∃ o, ContentAlike L k v (v.patch edits) o ∧ edits.First Before (fun _ => True) o := by
  have hdown {p : Path} (hp : (edits p).isSome) :
      (∃ tag c, v.HasContent tag c) ∧ p.head? = some (.member "c") := by
    obtain ⟨k', hread⟩ := hedits.exists_node hp
    refine hread.exists_content ?_
    rintro rfl
    rw [hnil] at hp
    cases hp
  by_cases hcontent : ∃ tag c, v.HasContent tag c
  · obtain ⟨tag, c, members, rfl, htag, hc⟩ := hcontent
    have hlayout : (Layout.node k).member members "c" = k.content tag := by
      simp only [Layout.member, htag]
    have hbelow := hedits.member hc
    rw [hlayout] at hbelow
    obtain ⟨o, hlike, hfirst⟩ := (h tag c ⟨members, rfl, htag, hc⟩).below hbelow
    have htag' : Json.find? "t" (Json.patchMembers members edits) = some (.string tag) := by
      rw [Json.find?_patchMembers_of_none fun p => ?_, htag]
      refine hedits.eq_none fun k' => Layout.not_readAt_member ?_
      simp [Layout.member]
    have hc' : Json.find? "c" (Json.patchMembers members edits) =
        some (c.patch (edits.below (.member "c"))) := by
      rw [Json.find?_patchMembers, hc]
      rfl
    rw [Json.patch_object hnil]
    exact ⟨o, .content htag htag' hc hc' hlike,
      hfirst.congr fun p hp => iff_of_true (hdown hp).2 trivial⟩
  · have hnone (p : Path) : edits p = none := by
      by_contra hne
      exact hcontent (hdown (Option.isSome_iff_ne_none.mpr hne)).1
    rw [Json.patch_none hnone]
    exact ⟨none, .bare fun tag c hc => hcontent ⟨tag, c, hc⟩, fun p _ => hnone p⟩

end DeckFilter
