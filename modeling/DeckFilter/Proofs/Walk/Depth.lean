import DeckFilter.Proofs.Walk.Document

/-!
# How deep a walked document nests

A walk makes no document nest deeper, as it is written, if its editor puts in nothing that nests
deeper than what it takes out.

* `Walk.Gives`: what holds of the results of a walk;
* `Editor.KeepsDepth`: the editors;
* `Json.walk_depth_le`, `Document.walk_depth_le`: values and documents.
-/

namespace DeckFilter

open Json (object array string number depthItems depthMembers)

/-! ## Results of walks -/

section Gives

variable {σ α β : Type} {P : α → Prop} {Q : β → Prop}

/-- Whenever the walk has a result, `P` holds of it. -/
def Walk.Gives (a : Walk σ α) (P : α → Prop) : Prop :=
  ∀ ⦃s : σ⦄ ⦃x : α⦄ ⦃s' : σ⦄, a.run s = some (x, s') → P x

theorem Walk.Gives.pure {x : α} (h : P x) : Walk.Gives (σ := σ) (Pure.pure x) P := by
  intro s y s' hy
  cases hy
  exact h

theorem Walk.Gives.failure : Walk.Gives (failure : Walk σ α) P := fun _ _ _ h => nomatch h

theorem Walk.Gives.bind {a : Walk σ α} {f : α → Walk σ β} (h : a.Gives P)
    (hf : ∀ x, P x → (f x).Gives Q) : Walk.Gives (a >>= f) Q := by
  intro s y s' hrun
  rw [StateT.run_bind] at hrun
  obtain ⟨⟨x, t⟩, hx, hy⟩ := Option.bind_eq_some_iff.mp hrun
  exact hf x (h hx) hy

theorem Walk.Gives.ask {question : StateM σ α} (h : ∀ s, P (question.run s).1) :
    (DeckFilter.ask question).Gives P := by
  intro s x s' hx
  have hx : some (question.run s) = some (x, s') := hx
  have := h s
  rwa [Option.some.inj hx] at this

theorem Walk.Gives.mapM {f : α → Walk σ β} : ∀ {xs : List α}, (∀ x ∈ xs, (f x).Gives Q) →
    Walk.Gives (xs.mapM f) fun ys => ∀ y ∈ ys, Q y
  | [], _ => .pure fun _ h => absurd h List.not_mem_nil
  | x :: xs, h => by
    rw [List.mapM_cons]
    refine (h x List.mem_cons_self).bind fun y hy => ?_
    refine (Walk.Gives.mapM fun z hz => h z (List.mem_cons_of_mem _ hz)).bind fun ys hys => ?_
    exact .pure (List.forall_mem_cons.mpr ⟨hy, hys⟩)

end Gives

/-! ## Values -/

variable {σ : Type} {r : Editor σ}

/-- What the editor leaves or puts in place of a node nests no deeper than the node, as it is
written. -/
structure Editor.KeepsDepth (r : Editor σ) : Prop where
  inline : ∀ (x : Inline) (s : σ),
    ∀ y ∈ ((r.inline x).run s).1.standing x, y.toJson.depth ≤ x.toJson.depth
  block : ∀ (x : Block) (s : σ),
    ∀ y ∈ ((r.block x).run s).1.standing x, y.toJson.depth ≤ x.toJson.depth

theorem Edit.forall_standingJson {α : Type} {toJson : α → Json} (x : α) {v : Json} {e : Edit α}
    {P : Json → Prop} (hv : P v) (h : ∀ y ∈ e.standing x, P (toJson y)) :
    ∀ w ∈ e.standingJson toJson v, P w := by
  cases e with
  | unchanged => exact List.forall_mem_singleton.mpr hv
  | delete => exact fun w hw => absurd hw List.not_mem_nil
  | replace nodes => exact List.forall_mem_map.mpr h

theorem Edit.standingJson_depth_le {α : Type} {toJson : α → Json} {question : StateM σ (Edit α)}
    {x : α} {v : Json} (hv : v.WellFormed) (hx : (toJson x).depth ≤ v.depth)
    (hwritten : ∀ y, (toJson y).WellFormed)
    (h : ∀ s, ∀ y ∈ (question.run s).1.standing x, (toJson y).depth ≤ (toJson x).depth) :
    Walk.Gives (do
      let answer ← ask question
      pure (answer.standingJson toJson v))
        fun vs => ∀ w ∈ vs, w.WellFormed ∧ w.depth ≤ v.depth := by
  have hask : Walk.Gives (ask question)
      fun answer => ∀ y ∈ answer.standing x, (toJson y).depth ≤ (toJson x).depth := .ask h
  refine hask.bind fun answer hanswer => .pure ?_
  refine answer.forall_standingJson x ⟨hv, Nat.le_refl _⟩ fun y hy => ?_
  exact ⟨hwritten y, Nat.le_trans (hanswer y hy) hx⟩

/-- **What stands in place of a value nests no deeper than the value.** -/
theorem Json.standing_depth_le (hr : r.KeepsDepth) {v : Json} (hv : v.WellFormed) :
    (v.standing r).Gives fun vs => ∀ w ∈ vs, w.WellFormed ∧ w.depth ≤ v.depth := by
  have hself : Walk.Gives (σ := σ) (pure [v])
      fun vs => ∀ w ∈ vs, w.WellFormed ∧ w.depth ≤ v.depth :=
    .pure (List.forall_mem_singleton.mpr ⟨hv, Nat.le_refl _⟩)
  have hnormal := depth_normal_le .value v
  unfold standing
  split
  · exact hself
  split_ifs
  · split
    · rename_i x hx
      rw [← (Block.decode_faithful (nodeReaders_faithful _) hv hx).1] at hnormal
      exact Edit.standingJson_depth_le hv hnormal Block.toJson_wellFormed (hr.block x)
    · exact .failure
  · split
    · rename_i x hx
      rw [← (Inline.decode_faithful (nodeReaders_faithful _) hv hx).1] at hnormal
      exact Edit.standingJson_depth_le hv hnormal Inline.toJson_wellFormed (hr.inline x)
    · exact .failure
  · exact hself

section Parts

variable {walk : Json → Walk σ Json}

theorem Json.walk_items_depth_le (hr : r.KeepsDepth)
    (hwalk : ∀ v : Json, v.WellFormed → (walk v).Gives fun w => w.depth ≤ v.depth)
    {items : List Json} (h : ∀ v ∈ items, v.WellFormed) :
    Walk.Gives (do
      let parts ← items.mapM fun item => do (← item.standing r).mapM walk
      pure (array parts.flatten)) fun w => w.depth ≤ (array items).depth := by
  have hparts : Walk.Gives (items.mapM fun item => do (← item.standing r).mapM walk)
      fun parts => ∀ part ∈ parts, ∀ w ∈ part, w.depth ≤ depthItems items :=
    .mapM fun item hitem => (standing_depth_le hr (h item hitem)).bind fun vs hvs =>
      .mapM fun v hv => by
        obtain ⟨hwell, hdepth⟩ := hvs v hv
        intro s w s' hw
        exact Nat.le_trans (hwalk v hwell hw) (Nat.le_trans hdepth (depth_le_depthItems hitem))
  refine hparts.bind fun parts hparts => .pure ?_
  have hflat : depthItems parts.flatten ≤ depthItems items := depthItems_le.mpr fun w hw => by
    obtain ⟨part, hpart, hw⟩ := List.mem_flatten.mp hw
    exact hparts part hpart w hw
  rw [depth, depth]
  omega

theorem Json.walk_members_depth_le {f : String × Json → Walk σ (String × Json)}
    {members : List (String × Json)}
    (h : ∀ m ∈ members, (f m).Gives fun m' => m'.2.depth ≤ depthMembers members) :
    Walk.Gives (do
      let members ← members.mapM f
      pure (object members)) fun w => w.depth ≤ (object members).depth := by
  refine (Walk.Gives.mapM h).bind fun ms hms => .pure ?_
  have hdepth := depthMembers_le.mpr hms
  rw [depth, depth]
  omega

end Parts

/-- **Walking a value makes it nest no deeper.** -/
theorem Json.walk_depth_le (hr : r.KeepsDepth) {v : Json} (hv : v.WellFormed) :
    (v.walk r).Gives fun w => w.depth ≤ v.depth := by
  intro s w s' hrun
  -- By fixpoint induction, as nothing bounds the walk: it goes on below what the editor puts in.
  refine walkFrom.partial_correctness r
    (fun v _ p => v.WellFormed → p.1.depth ≤ v.depth) ?_ v s (w, s') hrun hv
  clear hv hrun s s' w v
  intro walk ih v s p h hv
  have hwalk : ∀ v : Json, v.WellFormed → Walk.Gives (walk v) fun w => w.depth ≤ v.depth :=
    fun v hv s w s' hw => ih v s (w, s') hw hv
  split at h
  · have hmembers := (wellFormed_object.mp hv).2
    refine walk_members_depth_le (fun m hm => ?_) h
    exact (hwalk m.2 (hmembers m hm)).bind fun w hw =>
      .pure (Nat.le_trans hw (depth_le_depthMembers hm))
  · exact walk_items_depth_le hr hwalk (wellFormed_array.mp hv) h
  · cases h
    exact Nat.le_refl _

/-- **Walking a document as it is written makes it nest no deeper.** -/
theorem Json.walkDocument_depth_le (hr : r.KeepsDepth) {v : Json} (hv : v.WellFormed) :
    (v.walkDocument r).Gives fun w => w.depth ≤ v.depth := by
  unfold walkDocument
  split
  · rename_i members
    have hmembers : ∀ m ∈ members, (m.2.walk r).Gives fun w => w.depth ≤ depthMembers members :=
      fun m hm s w s' hw => Nat.le_trans (walk_depth_le hr ((wellFormed_object.mp hv).2 m hm) hw)
        (depth_le_depthMembers hm)
    have hmetadata : Walk.Gives ((find? "meta" members).mapM (Json.walk r))
        fun metadata => ∀ w ∈ metadata, w.depth ≤ depthMembers members := by
      cases hfind : find? "meta" members with
      | none => exact .pure fun w hw => nomatch hw
      | some v =>
        rw [Option.mapM_some, map_eq_pure_bind]
        exact (hmembers _ (mem_of_find? hfind)).bind fun w hw => .pure fun u hu => by
          cases hu
          exact hw
    refine hmetadata.bind fun metadata hmetadata => walk_members_depth_le fun m hm => ?_
    split_ifs
    · have hstays : (metadata.getD m.2).depth ≤ depthMembers members := by
        cases metadata with
        | none => exact depth_le_depthMembers hm
        | some w => exact hmetadata w rfl
      rw [pure_bind]
      exact .pure hstays
    · exact (hmembers m hm).bind fun w hw => .pure hw
  · exact walk_depth_le hr hv

/-- **Walking a document makes it nest no deeper, as it is written.** -/
theorem Document.walk_depth_le (hr : r.KeepsCanonical) (hr' : r.KeepsDepth) (n : Nat) {d : Document}
    (hd : d.Canonical) : (d.walk r n).Gives fun d' => d'.toJson.depth ≤ d.toJson.depth :=
  fun _ _ _ h => Json.walkDocument_depth_le hr' d.toJson_wellFormed (walk_refines hr n hd h).1

end DeckFilter
