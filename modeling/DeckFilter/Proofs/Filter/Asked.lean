import DeckFilter.Proofs.Filter.Results
import DeckFilter.Proofs.Text.Lines
import DeckFilter.Proofs.Walk.Recording

/-!
# How often a run asks

A run asks about nodes of the document and about words of its literals, in reading order and about
none of them twice: what stands in place of a node has below it what was below the node, or part of
it, or the words of a literal, which have nothing below them. So there are at most as many questions
as there are nodes and words.

* `Editor.recording_steady`: a steady editor is steady when it keeps a record;
* `Node.words`, `Node.wordCount`: the words and blanks of a literal, and how many there are;
* `Setup.standing_lists`: the lists below what stands in place of a node, in reading order;
* `Setup.asked_sublist`: the nodes that are asked about in a list;
* `walks_end_and_ask_once`: walks through documents.
-/

namespace DeckFilter

open List (Sublist)
open scoped List

/-! ## Records -/

/-- **A steady editor is steady when it keeps a record**, and the record is of the nodes it is asked
about. -/
theorem Editor.recording_steady {σ : Type} {r : Editor σ} {a : Answers} {effect : σ → Node → σ}
    {ok : σ → Prop} (hr : r.Steady a effect ok) : r.recording.Steady a
      (fun state x => (effect state.1 x, state.2 ++ [x])) fun state => ok state.1 where
  inline x state h := by
    obtain ⟨hanswer, heffect⟩ := hr.inline x state.1 h
    exact ⟨hanswer, congrArg (fun s => (s, state.2 ++ [Node.inline x])) heffect⟩
  block x state h := by
    obtain ⟨hanswer, heffect⟩ := hr.block x state.1 h
    exact ⟨hanswer, congrArg (fun s => (s, state.2 ++ [Node.block x])) heffect⟩
  ok state x h := hr.ok state.1 x h

theorem foldl_record_nodes {σ : Type} (effect : σ → Node → σ) (nodes : List Node) (s : σ)
    (asked : List Node) :
    nodes.foldl (fun state x => (effect state.1 x, state.2 ++ [x])) (s, asked) =
      (nodes.foldl effect s, asked ++ nodes) := by
  induction nodes generalizing s asked with
  | nil => rw [List.foldl_nil, List.foldl_nil, List.append_nil]
  | cons x nodes ih => rw [List.foldl_cons, ih, List.foldl_cons, List.append_assoc]; rfl

/-! ## Words -/

/-- The words and blanks of a literal. -/
def Node.words : Node → List Node
  | .inline (.code _ text) => (tokenize text).map .inline
  | _ => []

/-- For every blank of a literal there is the blank and the word after it, and there is a first
word. -/
def Node.wordCount : Node → Nat
  | .inline (.code _ text) => 2 * text.toList.count ' ' + 1
  | _ => 0

theorem length_tokenize (text : String) :
    (tokenize text).length = 2 * text.toList.count ' ' + 1 := by
  rw [tokenize, List.length_intersperse, List.length_map, Text.length_pieces]
  omega

theorem Node.length_words (x : Node) : x.words.length = x.wordCount := by
  cases x with
  | block x => rfl
  | inline x =>
    cases x with
    | code attr text => exact (List.length_map _).trans (length_tokenize text)
    | _ => rfl

/-- The nodes of a list, every literal followed by its words. -/
def NodeList.spelled (l : NodeList) : List Node := l.nodes.flatMap fun x => x :: x.words

/-- The nodes of a document, every literal followed by its words. -/
def Document.spelled (d : Document) : List Node := d.nodes.flatMap fun x => x :: x.words

theorem NodeList.spelled_eq (l : NodeList) :
    l.spelled = l.members.flatMap fun x => x :: (x.words ++ x.lists.flatMap spelled) := by
  rw [spelled, nodes_eq, List.flatMap_assoc]
  refine List.flatMap_congr fun x _ => ?_
  rw [Node.nodes, List.flatMap_cons, List.flatMap_assoc]
  rfl

theorem NodeList.below_sublist_spelled (l : NodeList) :
    (l.members.flatMap Node.lists).flatMap spelled <+ l.spelled := by
  rw [spelled_eq, List.flatMap_assoc]
  refine Sublist.flatMap_right _ fun x _ => ?_
  exact ((List.sublist_append_right x.words _).cons x)

theorem Document.length_spelled (d : Document) :
    d.spelled.length = d.nodes.length + (d.nodes.map Node.wordCount).sum := by
  rw [spelled]
  induction d.nodes with
  | nil => rfl
  | cons x nodes ih =>
    rw [List.flatMap_cons, List.length_append, ih, List.length_cons, Node.length_words,
      List.map_cons, List.sum_cons, List.length_cons]
    omega

/-! ## Questions -/

namespace Setup

variable (s : Setup) (format : String)

theorem raw_lists {rawFormat : String} {xs : List Block}
    (h : ∀ x ∈ xs, ∃ text, x = .raw rawFormat text) : xs.flatMap Block.lists = [] := by
  refine List.flatMap_eq_nil_iff.mpr fun x hx => ?_
  obtain ⟨text, rfl⟩ := h x hx
  rfl

theorem containerAfter_lists (kind : ContainerKind) (attr : Attr) (content : List Block) :
    (s.containerAfter kind attr content).flatMap Block.lists <+ [.blocks content] ∨
      (s.containerAfter kind attr content).flatMap Block.lists = content.flatMap Block.lists := by
  have hframe {before after : List Block} (h : s.frame? attr kind = some (before, after)) :
      (s.containerAfter kind attr content).flatMap Block.lists = content.flatMap Block.lists := by
    obtain ⟨hbefore, hafter⟩ := List.forall_mem_append.mp (s.frame_raw h)
    rw [s.containerAfter_frame h, List.flatMap_append, List.flatMap_append, raw_lists hbefore,
      raw_lists hafter, List.nil_append, List.append_nil]
  cases kind with
  | speakerNote | animate | latexEnvironment => exact Or.inr (hframe rfl)
  | sourceInclude =>
    left
    rcases s.containerAfter_sourceInclude attr with h | ⟨a, text, h⟩
    · rw [h]
      exact Sublist.refl _
    · rw [h]
      exact List.nil_sublist _
  | languageVariant =>
    left
    rw [containerAfter_languageVariant]
    cases Container.paragraphs? attr content with
    | none => exact Sublist.refl _
    | some p => exact List.nil_sublist _

theorem block_lists (x : Block) : ((s.answers format).block x).flatMap Block.lists <+ x.lists ∨
    ((s.answers format).block x).flatMap Block.lists =
      x.lists.flatMap fun l => l.members.flatMap Node.lists := by
  have hstays (h : (s.answers format).block x = [x]) :
      ((s.answers format).block x).flatMap Block.lists <+ x.lists := by
    rw [h, List.flatMap_singleton]
  have hcontent (content : List Block) : content.flatMap Block.lists =
      [NodeList.blocks content].flatMap fun l => l.members.flatMap Node.lists := by
    rw [List.flatMap_singleton, NodeList.members, List.flatMap_map]
    rfl
  by_cases hslide : format = s.config.slideFormat
  · subst hslide
    cases x using Block.edit_cases with
    | blockQuote content =>
      cases hanimation : s.config.bulletPointAnimation with
      | true => exact Or.inl (hstays (by rw [block_blockQuote, hanimation]; rfl))
      | false =>
        right
        rw [block_blockQuote, hanimation]
        exact hcontent content
    | header level attr content =>
      left
      rw [block_header, List.flatMap_singleton]
      exact Sublist.refl _
    | div attr content =>
      rw [block_div]
      cases Container.kind? attr content with
      | none => exact Or.inl (Sublist.refl _)
      | some kind =>
        exact (s.containerAfter_lists kind attr content).imp_right fun h =>
          h.trans (hcontent content)
    | stays x hquote hheader hdiv => exact Or.inl (hstays (s.block_stays hquote hheader hdiv))
  · exact Or.inl (hstays (s.block_of_ne format hslide x))

theorem inline_lists (x : Inline) : ((s.answers format).inline x).flatMap Inline.lists = x.lists ∨
    ∃ attr text, x = .code attr text ∧
      ((s.answers format).inline x).flatMap Inline.lists = [.inlines (tokenize text)] := by
  rw [inline_eq_singleton, List.flatMap_singleton]
  cases x with
  | code attr text =>
    rw [inlineAfter]
    rcases s.codeAfter_eq_or format attr text with h | ⟨-, raw, h⟩ | ⟨f, h⟩
    · exact Or.inl (congrArg Inline.lists h)
    · exact Or.inl ((congrArg Inline.lists h).trans rfl)
    · exact Or.inr ⟨attr, text, rfl, congrArg Inline.lists h⟩
  | span attr content =>
    left
    rw [inlineAfter]
    split_ifs <;> rfl
  | _ => exact Or.inl rfl

theorem standing_lists (x : Node) :
    ((s.answers format).standing x).flatMap Node.lists <+ x.lists ∨
    ((s.answers format).standing x).flatMap Node.lists =
      (x.lists.flatMap fun l => l.members.flatMap Node.lists) ∨
    ∃ attr text, x = .inline (.code attr text) ∧
      ((s.answers format).standing x).flatMap Node.lists = [.inlines (tokenize text)] := by
  cases x with
  | inline x =>
    rw [Answers.standing, List.flatMap_map]
    rcases s.inline_lists format x with h | ⟨attr, text, rfl, h⟩
    · exact Or.inl (h ▸ Sublist.refl _)
    · exact Or.inr (Or.inr ⟨attr, text, rfl, h⟩)
  | block x =>
    rw [Answers.standing, List.flatMap_map]
    exact (s.block_lists format x).imp id Or.inl

theorem asked_tokenize (text : String) :
    (s.answers format).asked (.inlines (tokenize text)) = (tokenize text).map .inline := by
  rw [Answers.asked_eq (s.answers_ends format), NodeList.members, List.flatMap_map,
    List.map_eq_flatMap]
  refine List.flatMap_congr fun word hword => ?_
  obtain ⟨hstanding, hlists⟩ := s.standing_word format (List.mem_map_of_mem hword)
  rw [hstanding, List.flatMap_singleton, hlists, List.flatMap_nil]

/-- **The nodes that are asked about in a list** are nodes of the list and words of its literals, in
reading order and each at most once. -/
theorem asked_sublist (l : NodeList) : (s.answers format).asked l <+ l.spelled := by
  have ha := s.answers_ends format
  induction l using Answers.induction ha with
  | step l ih =>
    rw [Answers.asked_eq ha, NodeList.spelled_eq]
    refine Sublist.flatMap_right _ fun x hx => Sublist.cons_cons x ?_
    rw [← List.flatMap_assoc]
    have hbelow : (((s.answers format).standing x).flatMap Node.lists).flatMap
        (s.answers format).asked <+
        (((s.answers format).standing x).flatMap Node.lists).flatMap NodeList.spelled := by
      refine Sublist.flatMap_right _ fun l' hl' => ?_
      obtain ⟨y, hy, hl'⟩ := List.mem_flatMap.mp hl'
      exact ih x hx y hy l' hl'
    rcases s.standing_lists format x with h | h | ⟨attr, text, rfl, h⟩
    · exact (hbelow.trans (h.flatMap _)).trans (List.sublist_append_right _ _)
    · refine (hbelow.trans ?_).trans (List.sublist_append_right _ _)
      rw [h, List.flatMap_assoc]
      exact Sublist.flatMap_right _ fun l' _ => l'.below_sublist_spelled
    · rw [h, List.flatMap_singleton, asked_tokenize]
      exact List.sublist_append_left _ _

end Setup

/-- **Walks end, and ask about no node twice.** A walk with the editor of a run that may go down as
far as a document reaches, or further, has one and the same result. The nodes it asks about are
nodes of the document and words of its literals, in reading order, each of them at most once: so it
asks at most once for every node, and in addition twice for every blank in a code inline and once
for the inline. -/
theorem walks_end_and_ask_once (s : Setup) (d : Document) (ctx : Context) :
    ∃ (result : Document × Context) (asked : List Node),
      (∀ more, (d.walk s.editor (Setup.reach d.height + more)).run ctx = some result) ∧
      (∀ more, (d.walk s.editor.recording (Setup.reach d.height + more)).run (ctx, []) =
        some (result.1, result.2, asked)) ∧
      asked <+ d.spelled ∧
      asked.length ≤ d.nodes.length + (d.nodes.map Node.wordCount).sum := by
  have ha := s.answers_ends ctx.format
  have hsteady := s.editor_steady ctx.format
  have hends (more : Nat) : ∀ l ∈ d.lists,
      (s.answers ctx.format).EndsWithin (Setup.reach d.height + more) l := fun l hl =>
    (s.endsWithin_reach ctx.format (d.height_le.mp (Nat.le_refl _) l hl)).mono
      (Nat.le_add_right _ _)
  have hasked : d.lists.flatMap (s.answers ctx.format).asked <+ d.spelled := by
    rw [Document.spelled, Document.nodes, List.flatMap_assoc]
    exact Sublist.flatMap_right _ fun l _ => s.asked_sublist ctx.format l
  refine ⟨((s.answers ctx.format).document d, _), d.lists.flatMap (s.answers ctx.format).asked,
    fun more => (Document.walk_yields hsteady ha (hends more) ctx rfl).1, fun more => ?_, hasked,
    ?_⟩
  · have hrecord := foldl_record_nodes (fun (c : Context) x => c.append (s.said ctx.format x))
      (d.lists.flatMap (s.answers ctx.format).asked) ctx []
    have hwalk := (Document.walk_yields (Editor.recording_steady hsteady) ha (hends more)
      (ctx, []) rfl).1
    exact hwalk.trans (congrArg (fun state => some (_, state)) hrecord)
  · rw [← d.length_spelled]
    exact hasked.length_le

end DeckFilter
