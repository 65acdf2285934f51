import DeckFilter.Proofs.Walk.Places

/-!
# Answers that differ in what is left out

If the nodes that two walks put in place of every node become the same once something is left out of
them, and have the same lists below them, then the walks ask about the same nodes, and their results
become the same once that is left out everywhere.

* `Answers.ofChange`: every inline gives way to one that has the same lists below it;
* `Answers.asked_alike`, `Answers.document_alike`: two walks, up to such a change;
* `Answers.document_congr`: two walks that answer alike.
-/

namespace DeckFilter

namespace Answers

/-! ## Changes of inlines -/

/-- Every inline is changed on its own, and blocks stay. -/
def ofChange (change : Inline → Inline) : Answers := ⟨fun x => [change x], fun x => [x]⟩

/-- A node, changed if it is an inline. -/
def changeNode (change : Inline → Inline) : Node → Node
  | .inline x => .inline (change x)
  | .block x => .block x

/-- The change leaves the lists below an inline, and does not look at them. -/
structure Shallow (change : Inline → Inline) : Prop where
  mapLists : ∀ (x : Inline) (f : List Inline → List Inline) (g : List Block → List Block),
    change (x.mapLists f g) = (change x).mapLists f g
  lists : ∀ x, (change x).lists = x.lists

theorem shallow_id : Shallow id := ⟨fun _ _ _ => rfl, fun _ => rfl⟩

section Shallow

variable {change : Inline → Inline} (h : Shallow change)

theorem standing_ofChange (x : Node) :
    (ofChange change).standing x = [changeNode change x] := by
  cases x <;> rfl

include h

theorem Shallow.lists_changeNode (x : Node) : (changeNode change x).lists = x.lists := by
  cases x with
  | inline x => exact h.lists x
  | block x => rfl

theorem Shallow.mapLists_changeNode (x : Node) (f : List Inline → List Inline)
    (g : List Block → List Block) :
    changeNode change (x.mapLists f g) = (changeNode change x).mapLists f g := by
  cases x with
  | inline x => exact congrArg Node.inline (h.mapLists x f g)
  | block x => rfl

theorem Shallow.ends : (ofChange change).Ends := by
  intro l
  refine endsWithin_of_height_le (fun x y hy l hl => Or.inl ?_) (Nat.le_refl _)
  rw [standing_ofChange, List.mem_singleton] at hy
  rw [hy, h.lists_changeNode] at hl
  exact x.height_le.mp (Nat.le_refl _) l hl

end Shallow

/-! ## Two walks -/

section Alike

variable {a a' : Answers} {change : Inline → Inline} (ha : a.Ends) (ha' : a'.Ends)
  (hchange : Shallow change)

theorem Shallow.flatMap_lists {α : Type} (h : Shallow change) {xs ys : List Node}
    (hxs : xs.map (changeNode change) = ys.map (changeNode change)) (f : NodeList → List α) :
    (xs.flatMap fun y => y.lists.flatMap f) = ys.flatMap fun y => y.lists.flatMap f := by
  have hlists : ∀ zs : List Node, (zs.flatMap fun y => y.lists.flatMap f) =
      (zs.map (changeNode change)).flatMap fun y => y.lists.flatMap f := by
    intro zs
    rw [List.flatMap_map]
    exact List.flatMap_congr fun y _ => by rw [h.lists_changeNode]
  rw [hlists xs, hlists ys, hxs]

include ha ha' hchange

/-- **Walks that answer alike up to a change ask about the same nodes.** -/
theorem asked_alike {l : NodeList} (h : ∀ x ∈ a.asked l,
    (a.standing x).map (changeNode change) = (a'.standing x).map (changeNode change)) :
    a.asked l = a'.asked l := by
  induction l using induction ha with
  | step l ih =>
    rw [asked_eq ha] at h
    rw [asked_eq ha, asked_eq ha']
    refine List.flatMap_congr fun x hx => congrArg (x :: ·) ?_
    have hbelow {z : Node} (hz : z ∈ (a.standing x).flatMap fun y => y.lists.flatMap a.asked) :=
      h z (List.mem_flatMap.mpr ⟨x, hx, List.mem_cons_of_mem x hz⟩)
    have hsame := h x (List.mem_flatMap.mpr ⟨x, hx, List.mem_cons_self⟩)
    rw [← hchange.flatMap_lists hsame]
    refine List.flatMap_congr fun y hy => List.flatMap_congr fun l' hl' => ?_
    refine ih x hx y hy l' hl' fun z hz => hbelow ?_
    exact List.mem_flatMap.mpr ⟨y, hy, List.mem_flatMap.mpr ⟨l', hl', hz⟩⟩

/-- **The results of walks that answer alike up to a change are the same up to that change.** -/
theorem after_alike {l : NodeList} (h : ∀ x ∈ a.asked l,
    (a.standing x).map (changeNode change) = (a'.standing x).map (changeNode change)) :
    (ofChange change).after (a.after l) = (ofChange change).after (a'.after l) := by
  have hb := hchange.ends
  induction l using induction ha with
  | step l ih =>
    rw [asked_eq ha] at h
    rw [after_after_eq_map, after_after_eq_map]
    refine NodeList.map_eq_of_members ?_
    rw [← after_after_eq_map, ← after_after_eq_map, members_after hb, members_after hb,
      members_after ha, members_after ha', List.flatMap_assoc, List.flatMap_assoc]
    refine List.flatMap_congr fun x hx => ?_
    have hbelow {z : Node} (hz : z ∈ (a.standing x).flatMap fun y => y.lists.flatMap a.asked) :=
      h z (List.mem_flatMap.mpr ⟨x, hx, List.mem_cons_of_mem x hz⟩)
    have hsame := h x (List.mem_flatMap.mpr ⟨x, hx, List.mem_cons_self⟩)
    -- both sides change the same nodes, first below them and then in place
    have hside : ∀ c : Answers, ((c.standing x).map (Node.mapLists c.inlinesAfter
        c.blocksAfter)).flatMap (fun y => ((ofChange change).standing y).map (Node.mapLists
          (ofChange change).inlinesAfter (ofChange change).blocksAfter)) =
        ((c.standing x).map (changeNode change)).map (Node.mapLists
          ((ofChange change).inlinesAfter ∘ c.inlinesAfter)
          ((ofChange change).blocksAfter ∘ c.blocksAfter)) := by
      intro c
      rw [List.flatMap_map, List.map_map, List.map_eq_flatMap]
      refine List.flatMap_congr fun y _ => ?_
      rw [standing_ofChange, List.map_singleton, hchange.mapLists_changeNode,
        Node.mapLists_mapLists]
      rfl
    rw [hside a, hside a', ← hsame]
    refine List.map_congr_left fun y' hy' => Node.mapLists_congr fun l' hl' => ?_
    obtain ⟨y, hy, rfl⟩ := List.mem_map.mp hy'
    rw [hchange.lists_changeNode] at hl'
    rw [← after_after_eq_map, ← after_after_eq_map]
    refine ih x hx y hy l' hl' fun z hz => hbelow ?_
    exact List.mem_flatMap.mpr ⟨y, hy, List.mem_flatMap.mpr ⟨l', hl', hz⟩⟩

/-- **Two walks through a document that answer alike up to a change have the same result up to that
change.** -/
theorem document_alike {d : Document} (h : ∀ x ∈ d.lists.flatMap a.asked,
    (a.standing x).map (changeNode change) = (a'.standing x).map (changeNode change)) :
    (ofChange change).document (a.document d) = (ofChange change).document (a'.document d) := by
  rw [document, document, document, document, Document.mapLists_mapLists,
    Document.mapLists_mapLists]
  refine Document.mapLists_congr fun l hl => ?_
  rw [← after_after_eq_map, ← after_after_eq_map]
  exact after_alike ha ha' hchange fun x hx => h x (List.mem_flatMap.mpr ⟨l, hl, hx⟩)

omit hchange in
/-- **Two walks through a document that answer alike have the same result.** -/
theorem document_congr {d : Document}
    (h : ∀ x ∈ d.lists.flatMap a.asked, a.standing x = a'.standing x) :
    a.document d = a'.document d := by
  have hself (d : Document) : (ofChange id).document d = d :=
    document_eq_self shallow_id.ends fun x _ => by cases x <;> rfl
  have hsame := document_alike ha ha' shallow_id fun x hx => congrArg _ (h x hx)
  rwa [hself, hself] at hsame

end Alike

end Answers

end DeckFilter
