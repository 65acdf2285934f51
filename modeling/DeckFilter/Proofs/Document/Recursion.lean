import DeckFilter.Proofs.Document.Breaks

/-!
# The readers without a bound on nesting

The readers go down as far as the value nests. To go further changes nothing, so they satisfy the
equations of readers without a bound.

* `Alike.refl`: a value is like itself if its nodes are;
* `nodeReaders_decode`: nodes are read alike under every bound that is high enough;
* `inlineOfJson_eq`, `blockOfJson_eq`, `metaOfJson_eq`, `inlinesOfJson_eq`, `blocksOfJson_eq`: the
  equations.
-/

namespace DeckFilter

open Decoded (Breaks)

variable {L : NodeKind → Json → Json → Option DecodeError → Prop} {n : Nat}

/-! ## Values like themselves -/

mutual

theorem Alike.refl (hL : ∀ (k : NodeKind) (w : Json), w.depth ≤ n → L k w w none) :
    ∀ (l : Layout) (v : Json), v.depth ≤ n → Alike L l v v none
  | .leaf, v, _ => .leaf v
  | .node k, v, hv => .node (hL k v hv)
  | .each l, .array items, hv =>
    .each (ItemsAlike.refl hL (.each l) 0 items (by grind [Json.depth]))
  | .tuple ls, .array items, hv =>
    .tuple (ItemsAlike.refl hL (.tuple ls) 0 items (by grind [Json.depth]))
  | .entries l, .object members, hv =>
    .entries (MembersAlike.refl hL l members (by grind [Json.depth]))
  | .citation, .object members, hv =>
    have hmembers : Json.depthMembers members ≤ n := by grind [Json.depth]
    .citation (fun _ _ _ => rfl) (FieldAlike.refl hL .inlines _ members hmembers)
      (FieldAlike.refl hL .inlines _ members hmembers)
  | .each _, .null, _ | .each _, .bool _, _ | .each _, .number _, _ | .each _, .string _, _
  | .each _, .object _, _ | .tuple _, .null, _ | .tuple _, .bool _, _ | .tuple _, .number _, _
  | .tuple _, .string _, _ | .tuple _, .object _, _ | .entries _, .null, _ | .entries _, .bool _, _
  | .entries _, .number _, _ | .entries _, .string _, _ | .entries _, .array _, _
  | .citation, .null, _ | .citation, .bool _, _ | .citation, .number _, _
  | .citation, .string _, _ | .citation, .array _, _ => .misfit id

theorem ItemsAlike.refl (hL : ∀ (k : NodeKind) (w : Json), w.depth ≤ n → L k w w none) :
    ∀ (l : Layout) (i : Nat) (items : List Json), Json.depthItems items ≤ n →
      ItemsAlike L l i items items none
  | l, i, [], _ => .nil l i
  | l, i, v :: rest, h =>
    .cons (Alike.refl hL (l.item i) v (by grind [Json.depthItems]))
      (ItemsAlike.refl hL l (i + 1) rest (by grind [Json.depthItems]))

theorem MembersAlike.refl (hL : ∀ (k : NodeKind) (w : Json), w.depth ≤ n → L k w w none) :
    ∀ (l : Layout) (members : List (String × Json)), Json.depthMembers members ≤ n →
      MembersAlike L l members members none
  | l, [], _ => .nil l
  | l, (k, v) :: rest, h =>
    .cons (Alike.refl hL l v (by grind [Json.depthMembers]))
      (MembersAlike.refl hL l rest (by grind [Json.depthMembers]))

theorem FieldAlike.refl (hL : ∀ (k : NodeKind) (w : Json), w.depth ≤ n → L k w w none) :
    ∀ (l : Layout) (key : String) (members : List (String × Json)),
      Json.depthMembers members ≤ n →
      FieldAlike L l (Json.find? key members) (Json.find? key members) none
  | l, _, [], _ => .none l
  | l, key, (k, v) :: rest, h => by
    rw [Json.find?]
    split_ifs
    · exact .some (Alike.refl hL l v (by grind [Json.depthMembers]))
    · exact FieldAlike.refl hL l key rest (by grind [Json.depthMembers])

end

/-! ## Nodes -/

/-- Two values are the same and nest at most `n` deep. -/
def SameWithin (n : Nat) (_ : NodeKind) (v v' : Json) (o : Option DecodeError) : Prop :=
  v' = v ∧ o = none ∧ v.depth ≤ n

theorem SameWithin.content (k : NodeKind) {v : Json} (hv : v.depth ≤ n + 1) :
    ContentAlike (SameWithin n) k v v none := by
  refine ContentAlike.refl fun tag c hcontent => ?_
  obtain ⟨members, rfl, -, hc⟩ := hcontent
  have hdepth : c.depth < n + 1 :=
    Nat.lt_of_lt_of_le (Json.depth_lt_object (Json.mem_of_find? hc)) hv
  exact Alike.refl (fun _ _ hw => ⟨rfl, rfl, hw⟩) _ c (Nat.le_of_lt_succ hdepth)

theorem decode_of_depth_zero (r r' : NodeReaders) {v : Json} (hv : v.depth = 0) :
    Inline.decode r v = Inline.decode r' v ∧ Block.decode r v = Block.decode r' v := by
  cases v with
  | array | object => rw [Json.depth] at hv; omega
  | _ => exact ⟨rfl, rfl⟩

/-- **A higher bound on nesting changes nothing** for nodes within the lower one. -/
theorem decode_nodeReaders : ∀ {n m : Nat}, n ≤ m → ∀ {v : Json}, v.depth ≤ n →
    Inline.decode (nodeReaders n) v = Inline.decode (nodeReaders m) v ∧
      Block.decode (nodeReaders n) v = Block.decode (nodeReaders m) v
  | 0, _, _, _, hv => decode_of_depth_zero _ _ (Nat.le_zero.mp hv)
  | n + 1, m + 1, h, v, hv => by
    have hnode {x x' : Json} {o : Option DecodeError} {k : NodeKind}
        (hx : Alike (SameWithin n) (.node k) x x' o) :
        Breaks o (Inline.decode (nodeReaders n) x) (Inline.decode (nodeReaders m) x') ∧
          Breaks o (Block.decode (nodeReaders n) x) (Block.decode (nodeReaders m) x') := by
      obtain ⟨rfl, rfl, hdepth⟩ := hx.of_node
      obtain ⟨hinline, hblock⟩ := decode_nodeReaders (Nat.le_of_succ_le_succ h) hdepth
      exact ⟨hinline.symm, hblock.symm⟩
    have hlists : (nodeReaders (n + 1)).Agree (SameWithin n) (nodeReaders (m + 1)) :=
      ⟨each_breaks fun hx => (hnode hx).1, each_breaks fun hx => (hnode hx).2⟩
    exact ⟨(Inline.decode_breaks hlists (SameWithin.content _ hv)).symm,
      (Block.decode_breaks hlists (SameWithin.content _ hv)).symm⟩

/-! ## The equations of the readers -/

theorem inlinesOfJson_eq (v : Json) :
    inlinesOfJson v = asArray "Inlines" v >>= fun items => items.mapM inlineOfJson := by
  cases v with
  | array items =>
    rw [inlinesOfJson, Json.depth, Nat.add_comm, nodeReaders, asArray, Decoded.ok_bind]
    exact Decoded.mapM_congr fun x hx =>
      (decode_nodeReaders (Json.depth_le_depthItems hx) (Nat.le_refl _)).1.symm
  | object members =>
    rw [inlinesOfJson, Json.depth, Nat.add_comm]
    rfl
  | _ => rfl

theorem blocksOfJson_eq (v : Json) :
    blocksOfJson v = asArray "Blocks" v >>= fun items => items.mapM blockOfJson := by
  cases v with
  | array items =>
    rw [blocksOfJson, Json.depth, Nat.add_comm, nodeReaders, asArray, Decoded.ok_bind]
    exact Decoded.mapM_congr fun x hx =>
      (decode_nodeReaders (Json.depth_le_depthItems hx) (Nat.le_refl _)).2.symm
  | object members =>
    rw [blocksOfJson, Json.depth, Nat.add_comm]
    rfl
  | _ => rfl

theorem NodeReaders.unbounded_agree
    (hinline : ∀ {x x' o}, L .inline x x' o → Breaks o (inlineOfJson x) (inlineOfJson x'))
    (hblock : ∀ {x x' o}, L .block x x' o → Breaks o (blockOfJson x) (blockOfJson x')) :
    NodeReaders.unbounded.Agree L .unbounded where
  inlines := by
    intro v v' o h
    change Breaks o (inlinesOfJson v) (inlinesOfJson v')
    rw [inlinesOfJson_eq, inlinesOfJson_eq]
    exact each_breaks (fun hx => hinline hx.of_node) h
  blocks := by
    intro v v' o h
    change Breaks o (blocksOfJson v) (blocksOfJson v')
    rw [blocksOfJson_eq, blocksOfJson_eq]
    exact each_breaks (fun hx => hblock hx.of_node) h

theorem nodeReaders_agree (n : Nat) :
    (nodeReaders (n + 1)).Agree (SameWithin n) .unbounded where
  inlines := by
    intro v v' o h
    change Breaks o _ (inlinesOfJson v')
    rw [inlinesOfJson_eq]
    refine each_breaks (fun hx => ?_) h
    obtain ⟨rfl, rfl, hdepth⟩ := hx.of_node
    exact (decode_nodeReaders hdepth (Nat.le_refl _)).1
  blocks := by
    intro v v' o h
    change Breaks o _ (blocksOfJson v')
    rw [blocksOfJson_eq]
    refine each_breaks (fun hx => ?_) h
    obtain ⟨rfl, rfl, hdepth⟩ := hx.of_node
    exact (decode_nodeReaders hdepth (Nat.le_refl _)).2

theorem inlineOfJson_eq (v : Json) : inlineOfJson v = Inline.decode .unbounded v := by
  rw [inlineOfJson]
  cases h : v.depth with
  | zero => exact (decode_of_depth_zero _ _ h).1
  | succ n =>
    have hlike : ContentAlike (SameWithin n) .inline v v none :=
      SameWithin.content _ (Nat.le_of_eq h)
    exact (Inline.decode_breaks (nodeReaders_agree n) hlike).symm

theorem blockOfJson_eq (v : Json) : blockOfJson v = Block.decode .unbounded v := by
  rw [blockOfJson]
  cases h : v.depth with
  | zero => exact (decode_of_depth_zero _ _ h).2
  | succ n =>
    have hlike : ContentAlike (SameWithin n) .block v v none :=
      SameWithin.content _ (Nat.le_of_eq h)
    exact (Block.decode_breaks (nodeReaders_agree n) hlike).symm

/-! ## Metadata -/

theorem SameWithin.agree : NodeReaders.unbounded.Agree (SameWithin n) .unbounded := by
  refine NodeReaders.unbounded_agree ?_ ?_
  all_goals
    intro x x' o hx
    obtain ⟨rfl, rfl, -⟩ := hx
    exact .same _

theorem metaReader_zero (entry : Json → Decoded MetaValue) {v : Json} (hv : v.depth = 0) :
    metaReader 0 v = MetaValue.decode entry v := by
  cases v with
  | array | object => rw [Json.depth] at hv; omega
  | _ => rfl

/-- **A higher bound on nesting changes nothing** for metadata values within the lower one. -/
theorem metaReader_eq_of_le : ∀ {n m : Nat}, n ≤ m → ∀ {v : Json}, v.depth ≤ n →
    metaReader n v = metaReader m v
  | 0, 0, _, _, _ => rfl
  | 0, m + 1, _, v, hv => metaReader_zero (metaReader m) (Nat.le_zero.mp hv)
  | n + 1, m + 1, h, v, hv => by
    refine (MetaValue.decode_breaks SameWithin.agree (fun hx => ?_) (SameWithin.content _ hv)).symm
    obtain ⟨rfl, rfl, hdepth⟩ := hx
    exact (metaReader_eq_of_le (Nat.le_of_succ_le_succ h) hdepth).symm

theorem metaOfJson_eq (v : Json) : metaOfJson v = MetaValue.decode metaOfJson v := by
  rw [metaOfJson]
  cases h : v.depth with
  | zero => exact metaReader_zero metaOfJson h
  | succ n =>
    have hlike : ContentAlike (SameWithin n) .metadata v v none :=
      SameWithin.content _ (Nat.le_of_eq h)
    refine (MetaValue.decode_breaks SameWithin.agree (fun hx => ?_) hlike).symm
    obtain ⟨rfl, rfl, hdepth⟩ := hx
    exact metaReader_eq_of_le hdepth (Nat.le_refl _)

end DeckFilter
