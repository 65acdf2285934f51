import DeckFilter.Proofs.Filter.Answers

/-!
# The results of a run

What stands in place of a node has below it what was there before, or the words of a literal. So a
walk ends within its reach, and the filtered lists are what their nodes give way to.

* `Setup.lists_standing`: what is below what stands in place of a node;
* `Setup.answers_ends`, `Setup.mem_asked`: walks end, and ask about the nodes of their list;
* `Setup.saidAll`: what is reported about nodes, one after the other;
* `Setup.walkInlines_run`, `Setup.walkBlocks_run`, `Setup.walk_run`: the results of walks;
* `Setup.filterInlines_eq`, `Setup.filterBlocks_eq`, `Setup.filterDocument_eq`: what is filtered.
-/

namespace DeckFilter

/-! ## Lists further down -/

/-- The list stands one or two levels below the node. -/
def Node.HasBelow (x : Node) (l : NodeList) : Prop :=
  l ∈ x.lists ∨ ∃ l₀ ∈ x.lists, ∃ z ∈ l₀.members, l ∈ z.lists

theorem Node.HasBelow.height_le {x : Node} {l : NodeList} (h : x.HasBelow l) :
    l.height ≤ x.height := by
  have hlists := x.height_le.mp (Nat.le_refl _)
  rcases h with hl | ⟨l₀, hl₀, z, hz, hl⟩
  · exact hlists l hl
  · exact Nat.le_trans (Nat.le_of_lt (NodeList.height_lt_of_mem_lists hz hl)) (hlists l₀ hl₀)

theorem Node.HasBelow.mem_nodes {x z : Node} {l : NodeList} (h : x.HasBelow l)
    (hz : z ∈ l.nodes) : z ∈ x.nodes := by
  rcases h with hl | ⟨l₀, hl₀, z', hz', hl⟩
  · exact x.mem_nodes_of_mem hl hz
  · exact x.mem_nodes_of_mem hl₀ (NodeList.mem_nodes_of_mem hz' (z'.mem_nodes_of_mem hl hz))

namespace Setup

variable (s : Setup) (format : String)

/-! ## What is below what stands in place of a node -/

theorem lists_inlineAfter (x : Inline) : (s.inlineAfter format x).lists = x.lists ∨
    x.lists = [] ∧ ∃ text, (s.inlineAfter format x).lists = [.inlines (tokenize text)] := by
  cases x with
  | code attr text =>
    rw [inlineAfter]
    rcases s.codeAfter_eq_or format attr text with h | ⟨-, raw, h⟩ | ⟨f, h⟩
    · rw [h]
      exact Or.inl rfl
    · rw [h]
      exact Or.inl rfl
    · rw [h]
      exact Or.inr ⟨rfl, text, rfl⟩
  | span attr content =>
    rw [inlineAfter]
    split_ifs <;> exact Or.inl rfl
  | _ => exact Or.inl rfl

theorem lists_inline {x y : Inline} (hy : y ∈ (s.answers format).inline x) {l : NodeList}
    (hl : l ∈ y.lists) : l ∈ x.lists ∨ ∃ text, l = .inlines (tokenize text) := by
  rw [inline_eq_singleton, List.mem_singleton] at hy
  subst hy
  rcases s.lists_inlineAfter format x with hlists | ⟨-, text, htext⟩
  · exact Or.inl (hlists ▸ hl)
  · exact Or.inr ⟨text, List.mem_singleton.mp (htext ▸ hl)⟩

theorem lists_containerAfter {kind : ContainerKind} {attr : Attr} {content : List Block}
    {y : Block} (hy : y ∈ s.containerAfter kind attr content) {l : NodeList} (hl : l ∈ y.lists) :
    l = .blocks content ∨ ∃ x ∈ content, l ∈ x.lists := by
  have hkept (hy : y = .div attr content) : l = .blocks content := by
    rw [hy] at hl
    exact List.mem_singleton.mp hl
  have hframe {before after : List Block} (h : s.frame? attr kind = some (before, after)) :
      ∃ x ∈ content, l ∈ x.lists := by
    rw [s.containerAfter_frame h, List.mem_append, List.mem_append] at hy
    have hraw := s.frame_raw h
    rcases hy with (hy | hy) | hy
    · obtain ⟨text, rfl⟩ := hraw y (List.mem_append_left _ hy)
      exact absurd hl List.not_mem_nil
    · exact ⟨y, hy, hl⟩
    · obtain ⟨text, rfl⟩ := hraw y (List.mem_append_right _ hy)
      exact absurd hl List.not_mem_nil
  cases kind with
  | speakerNote | animate | latexEnvironment => exact Or.inr (hframe rfl)
  | sourceInclude =>
    rcases s.containerAfter_sourceInclude attr with h | ⟨a, text, h⟩
    · rw [h, List.mem_singleton] at hy
      exact Or.inl (hkept hy)
    · rw [h, List.mem_singleton] at hy
      subst hy
      exact absurd hl List.not_mem_nil
  | languageVariant =>
    rw [containerAfter_languageVariant] at hy
    split at hy
    · exact Or.inl (hkept (List.mem_singleton.mp hy))
    · rw [List.mem_singleton.mp hy] at hl
      exact absurd hl List.not_mem_nil

theorem lists_block {x y : Block} (hy : y ∈ (s.answers format).block x) {l : NodeList}
    (hl : l ∈ y.lists) : (Node.block x).HasBelow l := by
  have hkept (hy : y ∈ [x]) : (Node.block x).HasBelow l :=
    Or.inl (List.mem_singleton.mp hy ▸ hl)
  by_cases hslide : format = s.config.slideFormat
  · subst hslide
    cases x using Block.edit_cases with
    | blockQuote content =>
      rw [block_blockQuote] at hy
      split_ifs at hy
      · exact hkept hy
      · exact Or.inr ⟨_, List.mem_cons_self, .block y, List.mem_map_of_mem hy, hl⟩
    | header level attr content =>
      rw [block_header, List.mem_singleton] at hy
      subst hy
      exact Or.inl hl
    | div attr content =>
      rw [block_div] at hy
      split at hy
      · rcases s.lists_containerAfter hy hl with rfl | ⟨z, hz, hl⟩
        · exact Or.inl List.mem_cons_self
        · exact Or.inr ⟨_, List.mem_cons_self, .block z, List.mem_map_of_mem hz, hl⟩
      · exact hkept hy
    | stays x hquote hheader hdiv =>
      rw [s.block_stays hquote hheader hdiv] at hy
      exact hkept hy
  · rw [s.block_of_ne format hslide] at hy
    exact hkept hy

/-- **What is below what stands in place of a node was below the node**, save for the words of a
literal. -/
theorem lists_standing {x y : Node} (hy : y ∈ (s.answers format).standing x) {l : NodeList}
    (hl : l ∈ y.lists) : x.HasBelow l ∨ ∃ text, l = .inlines (tokenize text) := by
  cases x with
  | inline x =>
    obtain ⟨z, hz, rfl⟩ := List.mem_map.mp hy
    exact (s.lists_inline format hz hl).imp_left Or.inl
  | block x =>
    obtain ⟨z, hz, rfl⟩ := List.mem_map.mp hy
    exact Or.inl (s.lists_block format hz hl)

/-! ## Walks end -/

theorem standing_word {text : String} {x : Node}
    (hx : x ∈ (NodeList.inlines (tokenize text)).members) :
    (s.answers format).standing x = [x] ∧ x.lists = [] := by
  obtain ⟨word, hword, rfl⟩ := List.mem_map.mp hx
  have hstays : (s.answers format).inline word = [word] := by
    rcases mem_tokenize hword with rfl | ⟨text, rfl⟩
    · exact s.inline_stays format nofun nofun nofun
    · exact s.inline_stays format nofun nofun nofun
  rw [Answers.standing, hstays]
  exact ⟨rfl, lists_word hx⟩

theorem endsWithin_tokenize (n : Nat) (text : String) :
    (s.answers format).EndsWithin (n + 1) (.inlines (tokenize text)) := by
  intro x hx y hy l hl
  obtain ⟨hstanding, hlists⟩ := s.standing_word format hx
  rw [hstanding, List.mem_singleton] at hy
  rw [hy, hlists] at hl
  exact absurd hl List.not_mem_nil

theorem endsWithin_of_height_le {n : Nat} {l : NodeList} (h : l.height ≤ n) :
    (s.answers format).EndsWithin (n + 1) l := by
  refine Answers.endsWithin_of_height_le (fun x y hy l' hl' => ?_) h
  refine (s.lists_standing format hy hl').imp Node.HasBelow.height_le ?_
  rintro ⟨text, rfl⟩ n
  exact s.endsWithin_tokenize format n text

/-- **Walks end**: no list goes down further than its height. -/
theorem answers_ends : (s.answers format).Ends :=
  fun l => s.endsWithin_of_height_le format (Nat.le_refl l.height)

theorem endsWithin_reach {n : Nat} {l : NodeList} (h : l.height ≤ n) :
    (s.answers format).EndsWithin (reach n) l :=
  (s.endsWithin_of_height_le format h).mono (Nat.le_succ (n + 1))

/-- **Only nodes of a list are asked about**, and words of its literals. -/
theorem mem_asked {l : NodeList} {x : Node} (hx : x ∈ (s.answers format).asked l) :
    x ∈ l.nodes ∨ ∃ text, x ∈ (NodeList.inlines (tokenize text)).members := by
  have ha := s.answers_ends format
  induction l using Answers.induction ha with
  | step l ih =>
    rw [Answers.asked_eq ha] at hx
    obtain ⟨x', hx', hx⟩ := List.mem_flatMap.mp hx
    have hnodes {z : Node} (hz : z ∈ x'.nodes) : z ∈ l.nodes := NodeList.mem_nodes_of_mem hx' hz
    rcases List.mem_cons.mp hx with rfl | hx
    · exact Or.inl (hnodes List.mem_cons_self)
    obtain ⟨y, hy, hx⟩ := List.mem_flatMap.mp hx
    obtain ⟨l', hl', hx⟩ := List.mem_flatMap.mp hx
    -- the list was below `x'` already, or spells a literal, whose words have nothing below them
    rcases s.lists_standing format hy hl' with hbelow | ⟨text, rfl⟩
    · exact (ih x' hx' y hy l' hl' hx).imp_left fun h => hnodes (hbelow.mem_nodes h)
    · refine Or.inr ⟨text, ?_⟩
      rw [Answers.asked_eq ha] at hx
      obtain ⟨word, hword, hx⟩ := List.mem_flatMap.mp hx
      obtain ⟨hstanding, hlists⟩ := s.standing_word format hword
      rw [hstanding, List.flatMap_singleton, hlists, List.flatMap_nil, List.mem_singleton] at hx
      rwa [hx]

/-! ## What is reported -/

/-- What is reported about nodes, one after the other. -/
def saidAll (nodes : List Node) : Context :=
  nodes.foldl (fun ctx x => ctx.append (s.said format x)) (.start format)

theorem foldl_said (nodes : List Node) (ctx : Context) :
    nodes.foldl (fun ctx x => ctx.append (s.said format x)) ctx =
      ctx.append (s.saidAll format nodes) := by
  have hmove : ∀ ctx added : Context,
      nodes.foldl (fun ctx x => ctx.append (s.said format x)) (ctx.append added) =
        ctx.append (nodes.foldl (fun ctx x => ctx.append (s.said format x)) added) := by
    intro ctx added
    induction nodes generalizing added with
    | nil => rfl
    | cons x nodes ih => rw [List.foldl_cons, List.foldl_cons, Context.append_assoc, ih]
  rw [saidAll, ← hmove, Context.append_start]

@[simp]
theorem saidAll_format (nodes : List Node) : (s.saidAll format nodes).format = format := by
  have h := s.foldl_said format nodes (.start format)
  rw [saidAll, h]
  rfl

theorem saidAll_append (nodes nodes' : List Node) : s.saidAll format (nodes ++ nodes') =
    (s.saidAll format nodes).append (s.saidAll format nodes') := by
  rw [saidAll, List.foldl_append]
  exact s.foldl_said format nodes' (s.saidAll format nodes)

theorem saidAll_map (nodes : List Node) {f : Node → Node}
    (h : ∀ x, s.said format (f x) = s.said format x) :
    s.saidAll format (nodes.map f) = s.saidAll format nodes := by
  rw [saidAll, saidAll, List.foldl_map]
  simp only [h]

/-! ## Results -/

variable {format} {ctx : Context}

theorem run_of_yields {α : Type} {w : Walk Context α} {x : α} {nodes : List Node}
    (h : w.Yields (fun ctx x => ctx.append (s.said format x)) (fun ctx => ctx.format = format) x
      nodes) (hctx : ctx.format = format) :
    w.run ctx = some (x, ctx.append (s.saidAll format nodes)) := by
  rw [(h ctx hctx).1, s.foldl_said format nodes ctx]

/-- **A walk through inlines has a result**: what its nodes give way to. -/
theorem walkInlines_run (xs : List Inline) {n : Nat} (hn : inlinesHeight xs ≤ n) :
    (walkInlines s.editor (reach n) xs).run ctx = some ((s.answers ctx.format).inlinesAfter xs,
      ctx.append (s.saidAll ctx.format ((s.answers ctx.format).asked (.inlines xs)))) := by
  have h := walkLists_yield (s.editor_steady ctx.format) (s.answers_ends ctx.format)
    (s.endsWithin_reach ctx.format (l := .inlines xs) hn)
  exact s.run_of_yields h rfl

/-- **A walk through blocks has a result**: what its nodes give way to. -/
theorem walkBlocks_run (xs : List Block) {n : Nat} (hn : blocksHeight xs ≤ n) :
    (walkBlocks s.editor (reach n) xs).run ctx = some ((s.answers ctx.format).blocksAfter xs,
      ctx.append (s.saidAll ctx.format ((s.answers ctx.format).asked (.blocks xs)))) := by
  have h := walkLists_yield (s.editor_steady ctx.format) (s.answers_ends ctx.format)
    (s.endsWithin_reach ctx.format (l := .blocks xs) hn)
  exact s.run_of_yields h rfl

/-- **A walk through a document has a result.** -/
theorem walk_run (d : Document) : (d.walk s.editor (reach d.height)).run ctx =
    some ((s.answers ctx.format).document d,
      ctx.append (s.saidAll ctx.format (d.lists.flatMap (s.answers ctx.format).asked))) := by
  have h := Document.walk_yields (s.editor_steady ctx.format) (s.answers_ends ctx.format) (d := d)
    fun l hl => s.endsWithin_reach ctx.format (d.height_le.mp (Nat.le_refl _) l hl)
  exact s.run_of_yields h rfl

theorem filterInlines_eq (xs : List Inline) (ctx : Context) :
    s.filterInlines xs ctx = ((s.answers ctx.format).inlinesAfter xs,
      ctx.append (s.saidAll ctx.format ((s.answers ctx.format).asked (.inlines xs)))) := by
  rw [filterInlines, s.walkInlines_run xs (Nat.le_refl _), Option.getD_some]

theorem filterBlocks_eq (xs : List Block) (ctx : Context) :
    s.filterBlocks xs ctx = ((s.answers ctx.format).blocksAfter xs,
      ctx.append (s.saidAll ctx.format ((s.answers ctx.format).asked (.blocks xs)))) := by
  rw [filterBlocks, s.walkBlocks_run xs (Nat.le_refl _), Option.getD_some]

/-- **A filtered document is what its nodes give way to**, and what is said about it is what is said
about its nodes. -/
theorem filterDocument_eq (format : String) (d : Document) : s.filterDocument format d =
    ((s.answers format).document d,
      let ctx := s.saidAll format (d.lists.flatMap (s.answers format).asked)
      ctx.note (finishedEvent ctx.diagnostics.length)) := by
  have hempty : ∀ added : Context, added.format = format →
      (Context.start format).append added = added := by
    rintro ⟨-, diagnostics, log⟩ rfl
    rfl
  rw [filterDocument, walkDocument, walkWith, s.walk_run d, Option.getD_some]
  dsimp only [Context.start]
  rw [← Context.start, hempty _ (s.saidAll_format format _)]

end Setup

end DeckFilter
