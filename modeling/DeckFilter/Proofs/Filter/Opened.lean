import DeckFilter.Proofs.Filter.Results
import DeckFilter.Proofs.Walk.Places

/-!
# Which blocks the rules for slides reach

On slides, block quotes and containers are opened: they give way to their content, which is not
asked about in its turn. So what stands directly in an opened node is neither decorated nor opened,
and what stands directly in that is again.

* `Setup.opens`: the nodes that give way to their content;
* `NodeList.marked`, `Document.marked`: all nodes, each with whether it stands directly in an opened
  node;
* `Setup.left`: what is left of a node, given that;
* `Setup.left_after`: what is left of the nodes of a list;
* `Setup.countP_marked_quotes`: how many quotes of a chain stand directly in an opened one;
* `slide_rules_reach`: what is left of the blocks of a document.
-/

namespace DeckFilter

/-! ## Opened nodes -/

/-- The nodes of a list and all nodes below them, in reading order, each with whether it stands
directly in an opened node. A node is opened if it is one of those that `opens` names and does not
itself stand directly in an opened node. -/
def NodeList.marked (opens : Node → Bool) (direct : Bool) (l : NodeList) : List (Node × Bool) :=
  l.members.attach.flatMap fun x => (x.1, direct) ::
    x.1.lists.attach.flatMap fun l' => l'.1.marked opens (opens x.1 && !direct)
termination_by l.height
decreasing_by exact NodeList.height_lt_of_mem_lists x.2 l'.2

/-- All nodes of a document, each with whether it stands directly in an opened node. -/
def Document.marked (opens : Node → Bool) (d : Document) : List (Node × Bool) :=
  d.lists.flatMap (NodeList.marked opens false)

section Marked

variable {opens : Node → Bool}

theorem NodeList.marked_eq (direct : Bool) (l : NodeList) : l.marked opens direct =
    l.members.flatMap fun x =>
      (x, direct) :: x.lists.flatMap (NodeList.marked opens (opens x && !direct)) := by
  rw [NodeList.marked]
  simp only [List.flatMap_subtype, List.unattach_attach]

theorem NodeList.map_fst_marked (direct : Bool) (l : NodeList) :
    (l.marked opens direct).map Prod.fst = l.nodes := by
  induction l using NodeList.induction generalizing direct with
  | step l ih =>
    rw [marked_eq, nodes_eq, List.map_flatMap]
    refine List.flatMap_congr fun x hx => ?_
    rw [List.map_cons, List.map_flatMap, Node.nodes]
    exact congrArg (x :: ·) (List.flatMap_congr fun l' hl' => ih x hx l' hl' _)

end Marked

/-! ## Blocks -/

/-- What a block is apart from what is below it, unless it is raw. -/
def Node.bareBlock? : Node → Option Block
  | .block (.raw _ _) => none
  | .block x => some x.bare
  | .inline _ => none

theorem Node.bareBlock?_mapLists (f : List Inline → List Inline) (g : List Block → List Block)
    (x : Node) : (x.mapLists f g).bareBlock? = x.bareBlock? := by
  cases x with
  | inline x => rfl
  | block x =>
    have hbare := x.bare_mapLists f g
    cases x with
    | raw format text => rfl
    | _ => exact congrArg some hbare

/-- A node is no container that gives way to a listing or to a subtitle. -/
def Node.KeepsContent : Node → Prop
  | .block (.div attr content) => Container.kind? attr content ≠ some .sourceInclude ∧
      Container.kind? attr content ≠ some .languageVariant
  | _ => True

namespace Setup

variable (s : Setup)

/-- The nodes that give way to their content: block quotes, unless bullets are to appear one at a
time, and containers. -/
def opens : Node → Bool
  | .block (.blockQuote _) => !s.config.bulletPointAnimation
  | .block (.div attr content) => (Container.kind? attr content).isSome
  | _ => false

/-- What is left of a node on slides, given whether it stands directly in an opened node: a header
has decorators unless it does, a block quote or a container is there only if it does, and all other
blocks are there. Raw blocks are left out, as they stand around the content of opened nodes too. -/
def left (x : Node) (direct : Bool) : Option Block :=
  match x with
  | .block (.header level ⟨id, classes, pairs⟩ _) =>
    some (.header level
      ⟨id, if direct then classes else classes ++ s.config.slideDecorators, pairs⟩ [])
  | .block (.blockQuote _) =>
    if s.config.bulletPointAnimation || direct then some (.blockQuote []) else none
  | .block (.div attr content) =>
    if (Container.kind? attr content).isNone || direct then some (.div attr []) else none
  | x => x.bareBlock?

theorem left_direct (x : Node) : s.left x true = x.bareBlock? := by
  cases x with
  | inline x => rfl
  | block x =>
    cases x with
    | blockQuote content => exact if_pos (Bool.or_true _)
    | div attr content => exact if_pos (Bool.or_true _)
    | _ => rfl

/-- What is left of the nodes of a list and of all nodes below them. -/
def leftOf (direct : Bool) (l : NodeList) : List Block :=
  (l.marked s.opens direct).filterMap fun m => s.left m.1 m.2

theorem leftOf_eq (direct : Bool) (l : NodeList) : s.leftOf direct l = l.members.flatMap fun x =>
    (s.left x direct).toList ++ x.lists.flatMap (s.leftOf (s.opens x && !direct)) := by
  rw [leftOf, NodeList.marked_eq, List.filterMap_flatMap]
  refine List.flatMap_congr fun x _ => ?_
  rw [List.filterMap_cons, List.filterMap_flatMap]
  cases s.left x direct <;> rfl

/-- What is left of a node that stands where it is not asked about. -/
def leftUnasked (x : Node) : List Block :=
  x.bareBlock?.toList ++ x.lists.flatMap (s.leftOf false)

theorem leftOf_true (l : NodeList) : s.leftOf true l = l.members.flatMap s.leftUnasked := by
  rw [leftOf_eq]
  refine List.flatMap_congr fun x _ => ?_
  rw [left_direct, Bool.not_true, Bool.and_false]
  rfl

theorem leftOf_tokenize (text : String) : s.leftOf false (.inlines (tokenize text)) = [] := by
  rw [leftOf_eq, List.flatMap_eq_nil_iff]
  intro w hw
  rw [lists_word hw, List.flatMap_nil]
  obtain ⟨word, -, rfl⟩ := List.mem_map.mp hw
  rfl

theorem leftUnasked_inline (x : Inline) :
    ((s.answers s.config.slideFormat).standing (.inline x)).flatMap s.leftUnasked =
      x.lists.flatMap (s.leftOf false) := by
  rw [Answers.standing, inline_eq_singleton, List.map_singleton, List.flatMap_singleton]
  change (s.inlineAfter s.config.slideFormat x).lists.flatMap (s.leftOf false) = _
  rcases s.lists_inlineAfter s.config.slideFormat x with hlists | ⟨hnone, text, htext⟩
  · rw [hlists]
  · rw [hnone, htext, List.flatMap_singleton, leftOf_tokenize, List.flatMap_nil]

theorem leftUnasked_raw {rawFormat : String} {xs : List Block}
    (h : ∀ x ∈ xs, ∃ text, x = .raw rawFormat text) :
    (xs.map Node.block).flatMap s.leftUnasked = [] := by
  refine List.flatMap_eq_nil_iff.mpr fun x hx => ?_
  obtain ⟨y, hy, rfl⟩ := List.mem_map.mp hx
  obtain ⟨text, rfl⟩ := h y hy
  rfl

theorem leftUnasked_containerAfter {kind : ContainerKind} {attr : Attr} {content : List Block}
    (hlisting : kind ≠ .sourceInclude) (hsubtitle : kind ≠ .languageVariant) :
    ((s.containerAfter kind attr content).map Node.block).flatMap s.leftUnasked =
      s.leftOf true (.blocks content) := by
  have hframe {before after : List Block} (h : s.frame? attr kind = some (before, after)) :
      ((s.containerAfter kind attr content).map Node.block).flatMap s.leftUnasked =
        s.leftOf true (.blocks content) := by
    obtain ⟨hbefore, hafter⟩ := List.forall_mem_append.mp (s.frame_raw h)
    rw [s.containerAfter_frame h, List.map_append, List.map_append, List.flatMap_append,
      List.flatMap_append, s.leftUnasked_raw hbefore, s.leftUnasked_raw hafter, leftOf_true,
      List.nil_append, List.append_nil]
    rfl
  cases kind with
  | speakerNote | animate | latexEnvironment => exact hframe rfl
  | sourceInclude => exact absurd rfl hlisting
  | languageVariant => exact absurd rfl hsubtitle

theorem leftUnasked_block {x : Block} (h : (Node.block x).KeepsContent) :
    ((s.answers s.config.slideFormat).standing (.block x)).flatMap s.leftUnasked =
      (s.left (.block x) false).toList ++ x.lists.flatMap (s.leftOf (s.opens (.block x))) := by
  rw [Answers.standing]
  cases x using Block.edit_cases with
  | blockQuote content =>
    rw [block_blockQuote, left, opens]
    cases s.config.bulletPointAnimation with
    | false =>
      exact (s.leftOf_true (.blocks content)).symm.trans (List.append_nil _).symm
    | true => exact List.flatMap_singleton _ _
  | header level attr content =>
    rw [block_header]
    exact List.flatMap_singleton _ _
  | div attr content =>
    rw [block_div, left, opens]
    cases hkind : Container.kind? attr content with
    | none => exact List.flatMap_singleton _ _
    | some kind =>
      obtain ⟨hlisting, hsubtitle⟩ := h
      rw [hkind] at hlisting hsubtitle
      dsimp only
      rw [s.leftUnasked_containerAfter (fun h => hlisting (congrArg some h))
        fun h => hsubtitle (congrArg some h)]
      exact (List.append_nil _).symm
  | stays x hquote hheader hdiv =>
    rw [s.block_stays hquote hheader hdiv]
    cases x with
    | blockQuote content => exact absurd rfl (hquote content)
    | header level attr content => exact absurd rfl (hheader level attr content)
    | div attr content => exact absurd rfl (hdiv attr content)
    | _ => exact List.flatMap_singleton _ _

/-- **What is left of what stands in place of a node** is what is left of the node, and of what is
below it. -/
theorem leftUnasked_standing {x : Node} (h : x.KeepsContent) :
    ((s.answers s.config.slideFormat).standing x).flatMap s.leftUnasked =
      (s.left x false).toList ++ x.lists.flatMap (s.leftOf (s.opens x)) := by
  cases x with
  | inline x => exact s.leftUnasked_inline x
  | block x => exact s.leftUnasked_block h

/-- **What is left of a list** is what is left of its nodes where they stand. -/
theorem left_after {l : NodeList} (h : ∀ x ∈ l.nodes, x.KeepsContent) :
    ((s.answers s.config.slideFormat).after l).nodes.filterMap Node.bareBlock? =
      s.leftOf false l := by
  have ha := s.answers_ends s.config.slideFormat
  induction l using Answers.induction ha with
  | step l ih =>
    rw [Answers.nodes_after ha, leftOf_eq, List.filterMap_flatMap]
    refine List.flatMap_congr fun x hx => ?_
    have hbelow {z : Node} (hz : z ∈ x.nodes) : z.KeepsContent :=
      h z (NodeList.mem_nodes_of_mem hx hz)
    rw [Bool.not_false, Bool.and_true, ← s.leftUnasked_standing (hbelow List.mem_cons_self),
      List.filterMap_flatMap]
    refine List.flatMap_congr fun y hy => ?_
    have hlists : (y.lists.flatMap fun l' =>
        ((s.answers s.config.slideFormat).after l').nodes).filterMap Node.bareBlock? =
          y.lists.flatMap (s.leftOf false) := by
      rw [List.filterMap_flatMap]
      refine List.flatMap_congr fun l' hl' => ih x hx y hy l' hl' fun z hz => ?_
      rcases s.lists_standing s.config.slideFormat hy hl' with hx | ⟨text, rfl⟩
      · exact hbelow (hx.mem_nodes hz)
      · rw [nodes_tokenize] at hz
        obtain ⟨word, -, rfl⟩ := List.mem_map.mp hz
        trivial
    rw [List.filterMap_cons, hlists, Node.bareBlock?_mapLists, leftUnasked]
    cases y.bareBlock? <;> rfl

end Setup

/-! ## Quotes in quotes -/

/-- A node is a block quote. -/
def Node.isQuote : Node → Bool
  | .block (.blockQuote _) => true
  | _ => false

theorem Node.isQuote_eq (x : Node) :
    x.isQuote = (x.bareBlock?.map fun y => (Node.block y).isQuote).getD false := by
  cases x with
  | inline x => rfl
  | block x => cases x <;> rfl

theorem countP_marks_eq_zero {marks : List (Node × Bool)}
    (h : (marks.map Prod.fst).countP Node.isQuote = 0) :
    marks.countP (fun m => m.1.isQuote && m.2) = 0 := by
  rw [List.countP_map] at h
  refine Nat.le_zero.mp (h ▸ List.countP_mono_left fun m _ hm => ?_)
  exact (Bool.and_eq_true_iff.mp hm).1

/-- Blocks in so many block quotes, each directly in the one before. -/
def quotes : Nat → List Block → List Block
  | 0, content => content
  | n + 1, content => [.blockQuote (quotes n content)]

namespace Setup

variable (s : Setup)

theorem isQuote_left (hquotes : s.config.bulletPointAnimation = false) (x : Node) (direct : Bool) :
    ((s.left x direct).map fun y => (Node.block y).isQuote).getD false =
      (x.isQuote && direct) := by
  cases direct with
  | true => rw [left_direct, ← Node.isQuote_eq, Bool.and_true]
  | false =>
    rw [Bool.and_false]
    cases x with
    | inline x => rfl
    | block x =>
      cases x with
      | blockQuote content => rw [left, hquotes]; rfl
      | div attr content => cases h : Container.kind? attr content <;> simp [left, h, Node.isQuote]
      | _ => rfl

theorem countP_isQuote (hquotes : s.config.bulletPointAnimation = false) {nodes : List Node}
    {marks : List (Node × Bool)}
    (h : nodes.filterMap Node.bareBlock? = marks.filterMap fun m => s.left m.1 m.2) :
    nodes.countP Node.isQuote = marks.countP fun m => m.1.isQuote && m.2 := by
  have hcount := congrArg (List.countP fun y => (Node.block y).isQuote) h
  rw [List.countP_filterMap, List.countP_filterMap] at hcount
  simpa only [s.isQuote_left hquotes, ← Node.isQuote_eq] using hcount

theorem countP_marked_quotes (hquotes : s.config.bulletPointAnimation = false)
    {content : List Block} (h : (NodeList.blocks content).nodes.countP Node.isQuote = 0) (n : Nat)
    (direct : Bool) :
    ((NodeList.blocks (quotes n content)).marked s.opens direct).countP
      (fun m => m.1.isQuote && m.2) = (n + direct.toNat) / 2 := by
  induction n generalizing direct with
  | zero =>
    rw [quotes, countP_marks_eq_zero ((NodeList.map_fst_marked direct _).symm ▸ h)]
    cases direct <;> rfl
  | succ n ih =>
    have hopens : s.opens (.block (.blockQuote (quotes n content))) = true := by
      rw [opens, hquotes]; rfl
    rw [quotes, NodeList.marked_eq]
    change (_ :: (List.flatMap _ [NodeList.blocks (quotes n content)] ++ [])).countP _ = _
    rw [List.append_nil, List.flatMap_singleton, hopens, List.countP_cons, ih]
    cases direct with
    | true => simp [Node.isQuote]; omega
    | false => simp [Node.isQuote]

end Setup

theorem countP_nodes_quotes (n : Nat) (content : List Block) :
    (NodeList.blocks (quotes n content)).nodes.countP Node.isQuote =
      n + (NodeList.blocks content).nodes.countP Node.isQuote := by
  induction n with
  | zero => rw [quotes, Nat.zero_add]
  | succ n ih =>
    rw [quotes, NodeList.nodes_eq]
    change (_ :: (List.flatMap _ [NodeList.blocks (quotes n content)] ++ [])).countP _ = _
    rw [List.append_nil, List.flatMap_singleton, List.countP_cons, ih]
    simp [Node.isQuote]; omega

/-- **The rules for slides reach a block unless it stands directly in an opened node.** On slides,
the blocks of a filtered document other than raw ones are what `Setup.left` leaves of the blocks of
the document, in the same order: each header once, with the same level, identifier and pairs, and
with the decorators after its classes just if it was reached; the containers that were not reached;
the block quotes that were not reached, or all of them if bullets are to appear one at a time; and
all other blocks. So every other one is left of block quotes that each stand directly in the one
before. -/
theorem slide_rules_reach (s : Setup) {d : Document} (h : ∀ x ∈ d.nodes, x.KeepsContent) :
    (s.filterDocument s.config.slideFormat d).1.nodes.filterMap Node.bareBlock? =
      (d.marked s.opens).filterMap (fun m => s.left m.1 m.2) ∧
    (s.config.bulletPointAnimation = false → ∀ n content, d.blocks = quotes n content →
      d.nodes.countP Node.isQuote = n →
        (s.filterDocument s.config.slideFormat d).1.nodes.countP Node.isQuote = n / 2) := by
  have hleft : (s.filterDocument s.config.slideFormat d).1.nodes.filterMap Node.bareBlock? =
      (d.marked s.opens).filterMap fun m => s.left m.1 m.2 := by
    rw [s.filterDocument_eq, Answers.nodes_document, List.filterMap_flatMap, Document.marked,
      List.filterMap_flatMap]
    refine List.flatMap_congr fun l hl => s.left_after fun x hx => ?_
    exact h x (List.mem_flatMap.mpr ⟨l, hl, hx⟩)
  refine ⟨hleft, fun hquotes n content hblocks hcount => ?_⟩
  have hsplit : d.nodes.countP Node.isQuote =
      ((metaEntriesLists d.metadata).flatMap NodeList.nodes).countP Node.isQuote +
        (n + (NodeList.blocks content).nodes.countP Node.isQuote) := by
    rw [Document.nodes, Document.lists, List.flatMap_append, List.countP_append,
      List.flatMap_singleton, hblocks, countP_nodes_quotes]
  have hmetadata :
      ((metaEntriesLists d.metadata).flatMap NodeList.nodes).countP Node.isQuote = 0 := by
    omega
  have hcontent : (NodeList.blocks content).nodes.countP Node.isQuote = 0 := by
    omega
  have hmarks : ((metaEntriesLists d.metadata).flatMap
      (NodeList.marked s.opens false)).countP (fun m => m.1.isQuote && m.2) = 0 := by
    refine countP_marks_eq_zero (Eq.trans ?_ hmetadata)
    simp only [List.map_flatMap, NodeList.map_fst_marked]
  rw [s.countP_isQuote hquotes hleft, Document.marked, Document.lists, List.flatMap_append,
    List.countP_append, List.flatMap_singleton, hblocks, hmarks,
    s.countP_marked_quotes hquotes hcontent, Bool.toNat_false, Nat.zero_add, Nat.add_zero]

/-- Three quotes in each other, with a header and a note that holds staged content. -/
def sampleQuotes : Document where
  apiVersion := [1, 22]
  metadata := []
  blocks := quotes 3 [.header 2 ⟨"a", ["x"], []⟩ [],
    .div (.ofClasses ["container", "speakernote"])
      [.div (.ofClasses ["container", "animate"]) [.header 3 .empty []], .header 4 .empty []]]

theorem slide_rules_reach_quotes :
    (∀ x ∈ sampleQuotes.nodes, x.KeepsContent) ∧
      Setup.plain.config.bulletPointAnimation = false ∧
      (Setup.plain.filterDocument "beamer" sampleQuotes).1.nodes.filterMap Node.bareBlock? =
        [.blockQuote [], .header 2 ⟨"a", ["x"], []⟩ [],
          .div (.ofClasses ["container", "speakernote"]) [],
          .header 3 .empty [], .header 4 (.ofClasses ["t", "shrink"]) []] ∧
      (Setup.plain.filterDocument "beamer" sampleQuotes).1.nodes.countP Node.isQuote = 1 := by
  have hkeeps : ∀ x ∈ sampleQuotes.nodes, x.KeepsContent := by
    simp only [Document.nodes, Document.lists, sampleQuotes, quotes, metaEntriesLists,
      List.nil_append, List.flatMap_cons, NodeList.nodes_eq, NodeList.members, List.map_cons,
      List.map_nil, Node.nodes, Node.lists, Block.lists, List.flatMap_nil, List.append_nil,
      List.cons_append, List.forall_mem_cons, Node.KeepsContent]
    exact ⟨trivial, trivial, trivial, trivial, by decide, by decide, trivial, trivial,
      List.forall_mem_nil _⟩
  obtain ⟨hblocks, hquotes⟩ := slide_rules_reach Setup.plain hkeeps
  refine ⟨hkeeps, rfl, hblocks.trans ?_, hquotes rfl 3 _ rfl ?_⟩
  · simp only [Document.marked, Document.lists, sampleQuotes, quotes, metaEntriesLists,
      List.nil_append, List.flatMap_cons, NodeList.marked_eq, NodeList.members, List.map_cons,
      List.map_nil, Node.lists, Block.lists, List.flatMap_nil, List.append_nil, List.cons_append]
    rfl
  · simp only [Document.nodes, Document.lists, sampleQuotes, quotes, metaEntriesLists,
      List.nil_append, List.flatMap_cons, NodeList.nodes_eq, NodeList.members, List.map_cons,
      List.map_nil, Node.nodes, Node.lists, Block.lists, List.flatMap_nil, List.append_nil,
      List.cons_append]
    rfl

end DeckFilter
