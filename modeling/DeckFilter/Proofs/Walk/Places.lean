import DeckFilter.Proofs.Document.Routes
import DeckFilter.Proofs.Walk.Answers

/-!
# The lists and the nodes of a result

Every list of a result is what becomes of a list whose nodes were asked about. If every node gives
way to one node with the same lists below it, lists keep their places, and what is collected from
the nodes of a result can be collected from the nodes that were there.

* `Answers.exists_asked_of_at?`: where the lists of a result come from;
* `Answers.nodes_after`: the nodes of a result;
* `Answers.document_eq_self`: a document in which all nodes stay;
* `Answers.ChangesTo`: every node gives way to one node;
* `Answers.bareBlocks?_at?_after`, `Answers.at?_after`: lists keep their places;
* `Answers.filterMap_nodes_after`, `Answers.filterMap_asked`: what is collected.
-/

namespace DeckFilter

namespace Answers

variable {a : Answers}

theorem at?_document (d : Document) (place : Nat × Route) : (a.document d).at? place =
    (d.lists[place.1]?).bind fun l => (a.after l).at? place.2 := by
  rw [Document.at?, document, Document.lists_mapLists, List.getElem?_map]
  exact Option.bind_map

section Results

variable (ha : a.Ends)

include ha

/-- **Every list of a result is what becomes of a list**, all of whose nodes were asked about. -/
theorem exists_asked_of_at? {route : Route} {l l' : NodeList}
    (h : (a.after l).at? route = some l') :
    ∃ l₀, l' = a.after l₀ ∧ ∀ x ∈ l₀.members, x ∈ a.asked l := by
  induction route generalizing l with
  | nil =>
    refine ⟨l, (Option.some.inj h).symm, fun x hx => ?_⟩
    rw [asked_eq ha]
    exact List.mem_flatMap.mpr ⟨x, hx, List.mem_cons_self⟩
  | cons step route ih =>
    obtain ⟨i, j⟩ := step
    obtain ⟨z, hz, h⟩ := Option.bind_eq_some_iff.mp h
    obtain ⟨below, hbelow, h⟩ := Option.bind_eq_some_iff.mp h
    have hz := List.mem_of_getElem? hz
    rw [members_after ha] at hz
    obtain ⟨x, hx, hz⟩ := List.mem_flatMap.mp hz
    obtain ⟨y, hy, rfl⟩ := List.mem_map.mp hz
    have hbelow := List.mem_of_getElem? hbelow
    rw [Node.lists_mapLists] at hbelow
    obtain ⟨l₁, hl₁, rfl⟩ := List.mem_map.mp hbelow
    obtain ⟨l₀, hl₀, hasked⟩ := ih h
    refine ⟨l₀, hl₀, fun w hw => ?_⟩
    rw [asked_eq ha]
    refine List.mem_flatMap.mpr ⟨x, hx, List.mem_cons_of_mem x ?_⟩
    exact List.mem_flatMap.mpr ⟨y, hy, List.mem_flatMap.mpr ⟨l₁, hl₁, hasked w hw⟩⟩

/-- **Every list of a changed document is what becomes of a list**, all of whose nodes were asked
about. -/
theorem exists_asked_of_document_at? {d : Document} {place : Nat × Route} {l : NodeList}
    (h : (a.document d).at? place = some l) :
    ∃ l₀, l = a.after l₀ ∧ ∀ x ∈ l₀.members, x ∈ d.lists.flatMap a.asked := by
  rw [at?_document] at h
  obtain ⟨l₁, hl₁, h⟩ := Option.bind_eq_some_iff.mp h
  obtain ⟨l₀, hl₀, hasked⟩ := exists_asked_of_at? ha h
  exact ⟨l₀, hl₀, fun x hx => List.mem_flatMap.mpr ⟨l₁, List.mem_of_getElem? hl₁, hasked x hx⟩⟩

/-- **The nodes of a result** are those that stand in place of the nodes of the list, each before
the nodes of the results below it. -/
theorem nodes_after (l : NodeList) : (a.after l).nodes = l.members.flatMap fun x =>
    (a.standing x).flatMap fun y =>
      y.mapLists a.inlinesAfter a.blocksAfter :: y.lists.flatMap fun l' => (a.after l').nodes := by
  rw [NodeList.nodes_eq, members_after ha, List.flatMap_assoc]
  refine List.flatMap_congr fun x _ => ?_
  rw [List.flatMap_map]
  refine List.flatMap_congr fun y _ => ?_
  rw [Node.nodes, Node.lists_mapLists, List.flatMap_map]
  rfl

theorem after_eq_self {l : NodeList} (h : ∀ x ∈ l.nodes, a.standing x = [x]) : a.after l = l := by
  induction l using NodeList.induction with
  | step l ih =>
    refine (NodeList.map_eq_of_members ?_).trans l.map_id
    rw [NodeList.map_id]
    refine (members_after ha l).trans ?_
    refine (List.flatMap_congr fun x hx => ?_).trans (List.flatMap_singleton' _)
    rw [h x (NodeList.mem_nodes_of_mem hx List.mem_cons_self), List.map_singleton]
    refine congrArg (fun y => [y]) ((Node.mapLists_congr fun l' hl' => ?_).trans x.mapLists_id)
    rw [NodeList.map_id]
    exact ih x hx l' hl' fun z hz =>
      h z (NodeList.mem_nodes_of_mem hx (Node.mem_nodes_of_mem hl' hz))

/-- **A document in which all nodes stay is its own result.** -/
theorem document_eq_self {d : Document} (h : ∀ x ∈ d.nodes, a.standing x = [x]) :
    a.document d = d := by
  refine (Document.mapLists_congr fun l hl => ?_).trans d.mapLists_id
  rw [NodeList.map_id]
  exact after_eq_self ha fun x hx => h x (List.mem_flatMap.mpr ⟨l, hl, hx⟩)

end Results

/-! ## One node for every node -/

/-- Every node gives way to one node, which has the same lists below it, or inlines that have
nothing below them where there was no list. -/
structure ChangesTo (a : Answers) (change : Node → Node) : Prop where
  standing (x : Node) : a.standing x = [change x]
  below (x : Node) : (change x).lists = x.lists ∨ x.lists = [] ∧
    ∃ words, (change x).lists = [.inlines words] ∧
      ∀ w ∈ (NodeList.inlines words).members, w.lists = []

theorem ChangesTo.mem_standing {change : Node → Node} (h : a.ChangesTo change) (x : Node) :
    change x ∈ a.standing x := by
  rw [h.standing]
  exact List.mem_singleton_self _

section Changes

variable {change : Node → Node} (ha : a.Ends) (hchange : a.ChangesTo change)

include ha hchange

theorem members_of_changes (l : NodeList) : (a.after l).members =
    l.members.map fun x => (change x).mapLists a.inlinesAfter a.blocksAfter := by
  rw [members_after ha, List.map_eq_flatMap]
  refine List.flatMap_congr fun x _ => ?_
  rw [hchange.standing, List.map_singleton]

theorem length_inlinesAfter (xs : List Inline) : (a.inlinesAfter xs).length = xs.length := by
  have h := congrArg List.length (members_of_changes ha hchange (.inlines xs))
  simpa [NodeList.members, after, NodeList.map] using h

theorem at?_after_cons (l : NodeList) (i j : Nat) (route : Route) :
    (a.after l).at? ((i, j) :: route) = (l.members[i]?).bind fun x =>
      ((change x).lists[j]?).bind fun below => (a.after below).at? route := by
  rw [NodeList.at?_cons, members_of_changes ha hchange, List.getElem?_map, Option.bind_map]
  refine Option.bind_congr fun x _ => ?_
  rw [Function.comp_apply, Node.lists_mapLists, List.getElem?_map, Option.bind_map]
  rfl

/-- **A list becomes its result where it stands.** -/
theorem at?_after {route : Route} {l l' : NodeList} (h : l.at? route = some l') :
    (a.after l).at? route = some (a.after l') := by
  induction route generalizing l with
  | nil => exact congrArg (some ∘ a.after) (Option.some.inj h)
  | cons step route ih =>
    obtain ⟨i, j⟩ := step
    obtain ⟨x, hx, h⟩ := Option.bind_eq_some_iff.mp h
    obtain ⟨below, hbelow, h⟩ := Option.bind_eq_some_iff.mp h
    -- there is a list below `x`, so what stands in its place has the same lists
    have hlists : (change x).lists = x.lists := by
      refine (hchange.below x).resolve_right fun hnone => ?_
      rw [hnone.1] at hbelow
      cases hbelow
    rw [at?_after_cons ha hchange, hx, Option.bind_some, hlists, hbelow, Option.bind_some]
    exact ih h

/-- **Lists of blocks stand where they stood**, and their blocks are the same apart from what is
below them, if blocks stay. -/
theorem bareBlocks?_at?_after (hblocks : ∀ x, a.block x = [x]) (route : Route) (l : NodeList) :
    ((a.after l).at? route).bind NodeList.bareBlocks? =
      (l.at? route).bind NodeList.bareBlocks? := by
  induction route generalizing l with
  | nil =>
    cases l with
    | inlines xs => rfl
    | blocks xs =>
      refine congrArg some ?_
      rw [blocksAfter_eq ha, List.map_flatMap, List.map_eq_flatMap]
      refine List.flatMap_congr fun x _ => ?_
      rw [hblocks, List.map_singleton, List.map_singleton, Block.bare_mapLists]
  | cons step route ih =>
    obtain ⟨i, j⟩ := step
    rw [at?_after_cons ha hchange, NodeList.at?_cons, Option.bind_assoc, Option.bind_assoc]
    refine Option.bind_congr fun x _ => ?_
    rw [Option.bind_assoc, Option.bind_assoc]
    rcases hchange.below x with hlists | ⟨hnone, words, hwords, hends⟩
    · rw [hlists]
      exact Option.bind_congr fun below _ => ih below
    · -- there are words where there was no list, but no block stands below them
      rw [hnone, hwords, List.getElem?_nil, Option.bind_none, Option.bind_eq_none_iff]
      intro below hbelow
      obtain rfl := List.mem_singleton.mp (List.mem_of_getElem? hbelow)
      rw [ih]
      cases route with
      | nil => rfl
      | cons step route => rw [NodeList.at?_cons_of_leaves hends, Option.bind_none]

/-- **A list of a document becomes its result where it stands.** -/
theorem document_at? {d : Document} {place : Nat × Route} {l : NodeList}
    (h : d.at? place = some l) : (a.document d).at? place = some (a.after l) := by
  obtain ⟨topmost, htopmost, h⟩ := Option.bind_eq_some_iff.mp h
  rw [at?_document, htopmost]
  exact at?_after ha hchange h

/-- **The blocks of a document stand where they stood**, if blocks stay. -/
theorem bareBlocks?_document_at? (hblocks : ∀ x, a.block x = [x]) (d : Document)
    (place : Nat × Route) : ((a.document d).at? place).bind NodeList.bareBlocks? =
      (d.at? place).bind NodeList.bareBlocks? := by
  rw [at?_document, Document.at?, Option.bind_eq_bind, Option.bind_assoc, Option.bind_assoc]
  exact Option.bind_congr fun l _ => bareBlocks?_at?_after ha hchange hblocks place.2 l

/-! ## What is collected -/

/-- **The nodes of a result** are the changed nodes that were asked about. -/
theorem nodes_after_eq_map_asked (l : NodeList) : (a.after l).nodes =
    (a.asked l).map fun x => (change x).mapLists a.inlinesAfter a.blocksAfter := by
  induction l using induction ha with
  | step l ih =>
    rw [nodes_after ha, asked_eq ha, List.map_flatMap]
    refine List.flatMap_congr fun x hx => ?_
    have hlists := ih x hx (change x) (hchange.mem_standing x)
    rw [hchange.standing, List.flatMap_singleton, List.flatMap_singleton, List.map_cons,
      List.map_flatMap, List.flatMap_congr hlists]

variable {γ : Type} {own own' : Node → Option γ}
  (hbelow : ∀ x, ((change x).lists.flatMap fun l => l.nodes.filterMap own) =
    x.lists.flatMap fun l => l.nodes.filterMap own)

include hbelow

/-- **What is collected from the nodes that are asked about** is what is collected from the nodes of
the list, if the change adds nothing to it further down. -/
theorem filterMap_asked (l : NodeList) : (a.asked l).filterMap own = l.nodes.filterMap own := by
  induction l using induction ha with
  | step l ih =>
    rw [asked_eq ha, NodeList.nodes_eq, List.filterMap_flatMap, List.filterMap_flatMap]
    refine List.flatMap_congr fun x hx => ?_
    have hlists := ih x hx (change x) (hchange.mem_standing x)
    rw [hchange.standing, List.flatMap_singleton, Node.nodes, List.filterMap_cons,
      List.filterMap_cons, List.filterMap_flatMap, List.filterMap_flatMap, ← hbelow,
      List.flatMap_congr hlists]

/-- **What is collected from the nodes of a result** can be collected from the nodes of the list, if
it can be told from each node before its change. -/
theorem filterMap_nodes_after
    (hown : ∀ x, own' ((change x).mapLists a.inlinesAfter a.blocksAfter) = own x) (l : NodeList) :
    (a.after l).nodes.filterMap own' = l.nodes.filterMap own := by
  rw [nodes_after_eq_map_asked ha hchange, List.filterMap_map,
    ← filterMap_asked ha hchange hbelow l]
  exact List.filterMap_congr fun x _ => hown x

/-- **What is collected from the nodes of a changed document** can be collected from the nodes of
the document. -/
theorem filterMap_nodes_document
    (hown : ∀ x, own' ((change x).mapLists a.inlinesAfter a.blocksAfter) = own x) (d : Document) :
    (a.document d).nodes.filterMap own' = d.nodes.filterMap own := by
  rw [nodes_document, Document.nodes, List.filterMap_flatMap, List.filterMap_flatMap]
  exact List.flatMap_congr fun l _ => filterMap_nodes_after ha hchange hbelow hown l

end Changes

end Answers

end DeckFilter
