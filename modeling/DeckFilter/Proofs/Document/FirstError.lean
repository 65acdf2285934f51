import DeckFilter.Proofs.Document.Edited
import DeckFilter.Proofs.Document.Recursion
import DeckFilter.Proofs.Document.WellFormed

/-!
# The error of the first node

If nodes of a document give way to values that their readers reject, the document is rejected with
the error of the first of them: no later one, no part around it and no part beside it changes the
error.

* `Changed`: nodes in which nodes were replaced, with `Changed.breaks` (what the readers say of
  them) and `Changed.traced` (they are what spoiled nodes leave);
* `Document.traced`: documents, through their metadata and their blocks;
* **`first_rejected_node_is_reported`**: the error of a document.
-/

namespace DeckFilter

open Decoded (Breaks)
open Json (Edits Path Before ReadBefore)

/-! ## Nodes in which nodes were replaced -/

/-- A node was replaced by a value that is rejected, or such nodes below it were, less than `n`
nodes down. -/
def Changed : Nat → NodeKind → Json → Json → Option DecodeError → Prop
  | 0, _, _, _, _ => False
  | n + 1, k, v, v', o => (∃ e, o = some e ∧ k.Rejects v' e) ∨ ContentAlike (Changed n) k v v' o

variable {n : Nat} {v v' : Json} {o : Option DecodeError}

/-- **What the readers say of a node in which nodes were replaced** is what they say of the node, up
to the first error. -/
theorem Changed.breaks : ∀ {n : Nat} {v v' : Json} {o : Option DecodeError},
    (Changed n .inline v v' o → Breaks o (inlineOfJson v) (inlineOfJson v')) ∧
      (Changed n .block v v' o → Breaks o (blockOfJson v) (blockOfJson v')) ∧
      (Changed n .metadata v v' o → Breaks o (metaOfJson v) (metaOfJson v'))
  | 0, _, _, _ => ⟨False.elim, False.elim, False.elim⟩
  | n + 1, v, v', o => by
    have hlists : NodeReaders.unbounded.Agree (Changed n) .unbounded :=
      NodeReaders.unbounded_agree breaks.1 breaks.2.1
    refine ⟨?inline, ?block, ?metadata⟩
    case inline =>
      rintro (⟨e, rfl, he⟩ | h)
      · exact fun _ _ => he
      · rw [inlineOfJson_eq, inlineOfJson_eq]
        exact Inline.decode_breaks hlists h
    case block =>
      rintro (⟨e, rfl, he⟩ | h)
      · exact fun _ _ => he
      · rw [blockOfJson_eq, blockOfJson_eq]
        exact Block.decode_breaks hlists h
    case metadata =>
      rintro (⟨e, rfl, he⟩ | h)
      · exact fun _ _ => he
      · rw [metaOfJson_eq, metaOfJson_eq v']
        exact MetaValue.decode_breaks hlists breaks.2.2 h

theorem Changed.traced_node {k : NodeKind}
    (h : ∀ tag c, v.HasContent tag c → Traced (Changed n) (k.content tag) c) :
    Traced (Changed (n + 1)) (.node k) v := by
  intro edits hedits
  cases hnil : edits [] with
  | none =>
    obtain ⟨o, hlike, hfirst⟩ := ContentAlike.of_spoil hedits hnil h
    exact ⟨o, .node (.inr hlike), hfirst⟩
  | some x =>
    obtain ⟨w, e⟩ := x
    obtain ⟨k', hread, hrejects⟩ := hedits.rejected hnil
    cases hread
    rw [Json.patch_of_some hnil]
    exact ⟨some e, .node (.inl ⟨e, rfl, hrejects⟩), [], w, trivial, hnil,
      fun q _ hq hne => absurd (hedits.alone hnil hq) hne⟩

/-- **Values in place of nodes leave a value alike** but for these nodes. -/
theorem Changed.traced {N : Nat} {v : Json} (h : v.depth < N) (hwf : v.WellFormed) :
    ∀ l : Layout, Traced (Changed N) l v := by
  -- the parts of a value nest less deep than the value
  have hpart {w : Json} (hw : w.depth < v.depth) (hwf : w.WellFormed) {M : Nat} (hM : v.depth ≤ M)
      (l : Layout) : Traced (Changed M) l w := traced (Nat.lt_of_lt_of_le hw hM) hwf l
  refine .of_parts hwf (fun k => ?_) (fun items hv w hw => ?_) fun members hv m hm => ?_
  · obtain _ | N := N
    · cases h
    · refine traced_node fun tag c hcontent => ?_
      obtain ⟨members, rfl, -, hc⟩ := hcontent
      exact hpart (Json.depth_lt_object (Json.mem_of_find? hc)) (hwf.find? hc)
        (Nat.le_of_lt_succ h) _
  · subst hv
    exact hpart (Json.depth_lt_array hw) (Json.wellFormed_array.mp hwf w hw) (Nat.le_of_lt h)
  · subst hv
    exact hpart (Json.depth_lt_object hm) ((Json.wellFormed_object.mp hwf).2 m hm)
      (Nat.le_of_lt h)
termination_by v.depth

/-! ## Documents -/

section Documents

variable {members members' : List (String × Json)} {o₁ o₂ : Option DecodeError} {edits : Edits}

theorem Document.ofJson_breaks
    (hversion : Json.find? "pandoc-api-version" members' = Json.find? "pandoc-api-version" members)
    (hmetadata : FieldAlike (Changed n) (.entries (.node .metadata)) (Json.find? "meta" members)
      (Json.find? "meta" members') o₁)
    (hblocks : FieldAlike (Changed n) .blocks (Json.find? "blocks" members)
      (Json.find? "blocks" members') o₂) :
    Breaks (o₁.or o₂) (Document.ofJson (.object members)) (Document.ofJson (.object members')) := by
  have hobject (members : List (String × Json)) :
      asObject "Pandoc" (.object members) = .ok members := rfl
  have hlists : NodeReaders.unbounded.Agree (Changed n) .unbounded :=
    NodeReaders.unbounded_agree Changed.breaks.1 Changed.breaks.2.1
  have hrest (version : List UInt64) (metadata : List (String × MetaValue)) :
      Breaks o₂
        (member "blocks" members >>= fun x => blocksOfJson x >>= fun blocks =>
          (.ok ⟨version, metadata, blocks⟩ : Decoded Document))
        (member "blocks" members' >>= fun x => blocksOfJson x >>= fun blocks =>
          .ok ⟨version, metadata, blocks⟩) := by
    rw [← Option.or_none (o := o₂)]
    exact member_breaks hblocks hlists.blocks fun _ => .same _
  rw [Document.ofJson, Document.ofJson, hobject, hobject, Decoded.ok_bind, Decoded.ok_bind,
    hversion]
  refine .step fun version => ?_
  generalize Json.find? "meta" members = x at hmetadata ⊢
  generalize Json.find? "meta" members' = x' at hmetadata ⊢
  cases hmetadata with
  | none => exact hrest version []
  | some h =>
    exact (entries_breaks (fun h => Changed.breaks.2.2 h.of_node) h).bind fun metadata =>
      hrest version metadata

theorem Document.traced_member {N : Nat} (hwf : (Json.object members).WellFormed)
    (hdepth : (Json.object members).depth ≤ N) (hedits : edits.Spoil (Json.object members).NodeAt)
    (key : String) :
    ∃ o, FieldAlike (Changed N) (.document key) (Json.find? key members)
        (Json.find? key (Json.patchMembers members edits)) o ∧
      edits.First ReadBefore (fun p => p.head? = some (.member key)) o := by
  refine Traced.field (fun w hw => ⟨?traced, ?spoil⟩) (fun hw p => ?_) fun _ _ => .deeper key
  case traced =>
    have hlt := Json.depth_lt_object (Json.mem_of_find? hw)
    exact Changed.traced (Nat.lt_of_lt_of_le hlt hdepth) (hwf.find? hw) _
  case spoil =>
    refine hedits.below _ fun p k hread => ?_
    obtain @⟨_, _, _, _, _, hw', hread⟩ := hread
    rw [hw] at hw'
    cases hw'
    exact hread
  · refine hedits.eq_none fun k hread => ?_
    obtain @⟨_, _, _, _, _, hw', -⟩ := hread
    rw [hw] at hw'
    cases hw'

/-- **A document is read through its metadata and then its blocks.** -/
theorem Document.traced (hwf : (Json.object members).WellFormed)
    (hedits : edits.Spoil (Json.object members).NodeAt) :
    ∃ o, Breaks o (Document.ofJson (.object members))
        (Document.ofJson ((Json.object members).patch edits)) ∧
      edits.First ReadBefore (fun _ => True) o := by
  obtain ⟨o₁, hmetadata, hfirst₁⟩ := traced_member hwf (Nat.le_refl _) hedits "meta"
  obtain ⟨o₂, hblocks, hfirst₂⟩ := traced_member hwf (Nat.le_refl _) hedits "blocks"
  have hversion : Json.find? "pandoc-api-version" (Json.patchMembers members edits) =
      Json.find? "pandoc-api-version" members :=
    Json.find?_patchMembers_of_none fun p => hedits.eq_none fun k hread => by
      simpa using hread.head?
  have hself : edits [] = none := hedits.eq_none fun k hread => by cases hread
  rw [Json.patch_object hself]
  refine ⟨o₁.or o₂, ofJson_breaks hversion hmetadata hblocks,
    (hfirst₁.or hfirst₂ fun p q hp hq => ?_).congr fun p hp => iff_of_true ?_ trivial⟩
  · obtain ⟨p, rfl⟩ := List.head?_eq_some_iff.mp hp
    obtain ⟨q, rfl⟩ := List.head?_eq_some_iff.mp hq
    exact .metadata p q
  · obtain ⟨k, hread⟩ := hedits.exists_node hp
    exact hread.head?

end Documents

/-- **The first node that is rejected has the error of the document.** Values that their readers
reject stand in place of nodes of a document, none of them inside another: the document is rejected
with the error of the one that is read before all others. -/
theorem first_rejected_node_is_reported {v : Json} {d : Document} {edits : Edits}
    (hwf : v.WellFormed) (hd : Document.ofJson v = .ok d) (hedits : edits.Spoil v.NodeAt)
    (hsome : ∃ p, (edits p).isSome) :
    ∃ p w e, edits p = some (w, e) ∧ (∀ q, (edits q).isSome → q ≠ p → ReadBefore p q) ∧
      Document.ofJson (v.patch edits) = .error e := by
  obtain ⟨members, hmembers, -⟩ := Decoded.bind_eq_ok.mp hd
  obtain rfl := asObject_eq_ok hmembers
  obtain ⟨o, hbreaks, hfirst⟩ := Document.traced hwf hedits
  cases o with
  | none =>
    obtain ⟨p, hp⟩ := hsome
    rw [hfirst p trivial] at hp
    cases hp
  | some e =>
    obtain ⟨p, w, -, hedit, hbefore⟩ := hfirst
    exact ⟨p, w, e, hedit, fun q => hbefore q trivial, hbreaks d hd⟩

/-! ## A sample -/

/-- A document with a title and a paragraph. -/
def sampleTitled : Document := ⟨[1, 23], [("title", .inlines [.str "Deck"])], [.para [.str "Ada"]]⟩

/-- The paragraph of the document gives way to an array, and the text of its title to nothing. -/
def sampleSpoiling : Edits := fun p =>
  if p = [.member "blocks", .item 0] then some (.array [], .mismatch (.object "Block"))
  else if p = [.member "meta", .member "title", .member "c", .item 0] then
    some (.null, .mismatch (.object "Inline"))
  else none

theorem sampleSpoiling_spoil : sampleSpoiling.Spoil sampleTitled.toJson.NodeAt where
  rejected := by
    intro p w e h
    rw [sampleSpoiling] at h
    split_ifs at h with hblock htext
    · cases h
      subst hblock
      exact ⟨.block, .member rfl (.item rfl (.here _ _)), rfl⟩
    · cases h
      subst htext
      exact ⟨.inline, .member rfl (.member rfl (.member rfl (.item rfl (.here _ _)))), rfl⟩
  apart := by
    intro p q hp hq hprefix
    rw [sampleSpoiling] at hp hq
    split_ifs at hp hq with h₁ h₂ h₃ h₄
    all_goals simp_all

theorem not_readBefore_metadata (p q : Path) :
    ¬ReadBefore (.member "blocks" :: p) (.member "meta" :: q) := by
  generalize hp : Json.Step.member "blocks" :: p = p'
  generalize hq : Json.Step.member "meta" :: q = q'
  intro h
  cases h with
  | metadata => simp at hp
  | deeper key =>
    simp only [List.cons.injEq, Json.Step.member.injEq] at hp hq
    exact absurd (hp.1.trans hq.1.symm) (by decide)

/-- The error is that of the title, though the key of the blocks is the lesser one. -/
theorem first_rejected_node_is_reported_title :
    Document.ofJson sampleTitled.toJson = .ok sampleTitled ∧
      Document.ofJson (sampleTitled.toJson.patch sampleSpoiling) =
        .error (.mismatch (.object "Inline")) := by
  obtain ⟨p, w, e, hedit, hbefore, herror⟩ :=
    first_rejected_node_is_reported sampleTitled.toJson_wellFormed (d := sampleTitled) rfl
      sampleSpoiling_spoil ⟨[.member "blocks", .item 0], rfl⟩
  refine ⟨rfl, ?_⟩
  rw [sampleSpoiling] at hedit
  split_ifs at hedit with hblock htext
  · have hfirst : ReadBefore p [.member "meta", .member "title", .member "c", .item 0] :=
      hbefore _ rfl (by rw [hblock]; decide)
    rw [hblock] at hfirst
    exact absurd hfirst (not_readBefore_metadata _ _)
  · cases hedit
    exact herror

end DeckFilter
