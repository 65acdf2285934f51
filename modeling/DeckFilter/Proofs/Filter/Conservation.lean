import DeckFilter.Proofs.Document.Text
import DeckFilter.Proofs.Filter.Results
import DeckFilter.Proofs.Role.Tokens
import DeckFilter.Proofs.Text.Lines

/-!
# Nothing of a text is lost

What stands in place of a node says what the node says, in the same order, unless a role turns its
text into raw markup, or a container gives way to something of its own.

* `Answers.text_after`, `Answers.text_document`: if nothing is lost at a node, nothing is lost
  below;
* `text_tokenize`: the words and blanks of a literal spell it;
* `Setup.KeepsText`: the nodes at which nothing is lost;
* `filtered_text_is_conserved`: nothing of the text of a document is lost.
-/

namespace DeckFilter

/-! ## From nodes to documents -/

section Answers

variable {a : Answers} (ha : a.Ends)

include ha

/-- **If nothing is lost at the nodes that are asked about, a list still says what it said.** -/
theorem Answers.text_after {l : NodeList}
    (h : ∀ x ∈ a.asked l, String.join ((a.standing x).map Node.text) = x.text) :
    (a.after l).text = l.text := by
  induction l using induction ha with
  | step l ih =>
    have hbelow : ∀ x ∈ l.members, ∀ y ∈ a.standing x,
        (y.mapLists a.inlinesAfter a.blocksAfter).text = y.text := by
      intro x hx y hy
      -- whatever is asked about below `y` is asked about in `l`, so nothing is lost there
      refine Node.text_mapLists fun l' hl' => ih x hx y hy l' hl' fun z hz => h z ?_
      rw [asked_eq ha]
      refine List.mem_flatMap.mpr ⟨x, hx, List.mem_cons_of_mem x ?_⟩
      exact List.mem_flatMap.mpr ⟨y, hy, List.mem_flatMap.mpr ⟨l', hl', hz⟩⟩
    rw [NodeList.text_eq, members_after ha, List.map_flatMap, join_flatMap, NodeList.text_eq]
    refine congrArg String.join (List.map_congr_left fun x hx => ?_)
    have hstanding : (a.standing x).map (Node.text ∘ Node.mapLists a.inlinesAfter a.blocksAfter) =
        (a.standing x).map Node.text := List.map_congr_left (hbelow x hx)
    rw [List.map_map, hstanding]
    refine h x ?_
    rw [asked_eq ha]
    exact List.mem_flatMap.mpr ⟨x, hx, List.mem_cons_self⟩

/-- **If nothing is lost at the nodes that are asked about, a document still says what it said.** -/
theorem Answers.text_document {d : Document} (h : ∀ x ∈ d.lists.flatMap a.asked,
    String.join ((a.standing x).map Node.text) = x.text) : (a.document d).text = d.text :=
  Document.text_mapLists fun l hl => text_after ha fun x hx =>
    h x (List.mem_flatMap.mpr ⟨l, hl, hx⟩)

end Answers

/-! ## Words -/

/-- **The words and blanks of a literal spell it**, whatever blanks there are in it. -/
theorem text_tokenize (text : String) : (NodeList.inlines (tokenize text)).text = text := by
  have hwords : ∀ x ∈ tokenize text, (Node.inline x).text = x.ownText := by
    intro x hx
    rw [Node.text_eq]
    rcases mem_tokenize hx with rfl | ⟨word, rfl⟩
    · exact String.append_empty
    · exact String.append_empty
  rw [NodeList.text_eq, NodeList.members, List.map_map]
  exact (congrArg String.join (List.map_congr_left hwords)).trans
    ((join_spaced Inline.ownText (fun _ => rfl) rfl _).trans (Text.intercalate_pieces ' ' text))

/-! ## Nodes -/

namespace Setup

variable (s : Setup) (format : String)

/-- Nothing of a node is lost on slides: it is no code whose role is raw markup, and no division
that gives way to a listing or to a subtitle. -/
def KeepsText : Node → Prop
  | .inline (.code attr _) => ∀ role f, attr.HasRole role → s.config.role? role = some f → ¬f.isRaw
  | .block (.div attr content) =>
    ((Container.classify attr content).run (.start s.config.slideFormat)).1 ≠
        some .sourceInclude ∧
      ((Container.classify attr content).run (.start s.config.slideFormat)).1 ≠
        some .languageVariant
  | _ => True

theorem text_emphasize (f : RoleFormat) (content : List Inline) :
    (Node.inline (Role.emphasize f content)).text = (NodeList.inlines content).text :=
  Node.text_of_lists rfl rfl

theorem text_codeAfter {attr : Attr} {text : String}
    (h : format = s.config.slideFormat → s.KeepsText (.inline (.code attr text))) :
    (Node.inline (s.codeAfter format attr text)).text = (Node.inline (.code attr text)).text := by
  have hwords (f : RoleFormat) : (Node.inline (Role.emphasize f (tokenize text))).text =
      (Node.inline (.code attr text)).text := by
    rw [text_emphasize, text_tokenize, Node.text_eq]
    exact String.append_empty.symm
  rw [codeAfter]
  cases hrole : Role.roleOf? attr with
  | none => rfl
  | some role =>
    dsimp only
    cases hformat : s.config.role? role with
    | none => exact hwords _
    | some f =>
      dsimp only
      split_ifs with hraw hslide
      · exact absurd hraw (h hslide role f (Attr.hasRole_iff.mpr hrole) hformat)
      · rfl
      · exact hwords f

theorem text_inline {x : Inline} (h : format = s.config.slideFormat → s.KeepsText (.inline x)) :
    (NodeList.inlines ((s.answers format).inline x)).text = (Node.inline x).text := by
  cases x using Inline.edit_cases with
  | code attr text =>
    rw [inline_code, NodeList.text_inlines_singleton]
    exact s.text_codeAfter format h
  | image attr description target =>
    rw [inline_image, NodeList.text_inlines_singleton, Node.text_eq, Node.text_eq]
    rfl
  | span attr content =>
    rw [inline_span]
    split_ifs
    · rw [NodeList.text_inlines_singleton, Role.applyDefault, text_emphasize]
      exact (Node.text_of_lists rfl rfl).symm
    · rw [NodeList.text_inlines_singleton]
  | stays x hcode himage hspan =>
    rw [s.inline_stays format hcode himage hspan, NodeList.text_inlines_singleton]

theorem text_raw {rawFormat : String} {xs : List Block}
    (h : ∀ x ∈ xs, ∃ text, x = .raw rawFormat text) : (NodeList.blocks xs).text = "" := by
  induction xs with
  | nil => exact NodeList.text_eq _
  | cons x xs ih =>
    obtain ⟨⟨text, rfl⟩, hxs⟩ := List.forall_mem_cons.mp h
    rw [← List.singleton_append, NodeList.text_blocks_append, NodeList.text_blocks_singleton,
      ih hxs, Node.text_eq, String.append_empty]
    exact String.append_empty

theorem text_containerAfter {kind : ContainerKind} {attr : Attr} {content : List Block}
    (hlisting : kind ≠ .sourceInclude) (hsubtitle : kind ≠ .languageVariant) :
    (NodeList.blocks (s.containerAfter kind attr content)).text =
      (NodeList.blocks content).text := by
  have hframe {before after : List Block} (h : s.frame? attr kind = some (before, after)) :
      (NodeList.blocks (s.containerAfter kind attr content)).text =
        (NodeList.blocks content).text := by
    obtain ⟨hbefore, hafter⟩ := List.forall_mem_append.mp (s.frame_raw h)
    rw [s.containerAfter_frame h, NodeList.text_blocks_append, NodeList.text_blocks_append,
      text_raw hbefore, text_raw hafter, String.empty_append, String.append_empty]
  cases kind with
  | speakerNote | animate | latexEnvironment => exact hframe rfl
  | sourceInclude => exact absurd rfl hlisting
  | languageVariant => exact absurd rfl hsubtitle

theorem text_block {x : Block} (h : format = s.config.slideFormat → s.KeepsText (.block x)) :
    (NodeList.blocks ((s.answers format).block x)).text = (Node.block x).text := by
  by_cases hslide : format = s.config.slideFormat
  · subst hslide
    cases x using Block.edit_cases with
    | blockQuote content =>
      rw [block_blockQuote]
      split_ifs
      · rw [NodeList.text_blocks_singleton]
      · exact (Node.text_of_lists rfl rfl).symm
    | header level attr content =>
      rw [block_header, NodeList.text_blocks_singleton, Node.text_eq, Node.text_eq]
      rfl
    | div attr content =>
      have hkeeps := h rfl
      rw [KeepsText, Container.classify_run] at hkeeps
      rw [block_div]
      cases hkind : Container.kind? attr content with
      | none => exact NodeList.text_blocks_singleton _
      | some kind =>
        rw [hkind] at hkeeps
        dsimp only
        rw [s.text_containerAfter (fun h => hkeeps.1 (congrArg some h))
          fun h => hkeeps.2 (congrArg some h)]
        exact (Node.text_of_lists rfl rfl).symm
    | stays x hquote hheader hdiv =>
      rw [s.block_stays hquote hheader hdiv, NodeList.text_blocks_singleton]
  · rw [s.block_of_ne format hslide, NodeList.text_blocks_singleton]

theorem text_standing {x : Node} (h : format = s.config.slideFormat → s.KeepsText x) :
    String.join (((s.answers format).standing x).map Node.text) = x.text := by
  cases x with
  | inline x => exact (NodeList.text_eq _).symm.trans (s.text_inline format h)
  | block x => exact (NodeList.text_eq _).symm.trans (s.text_block format h)

theorem keepsText_word {text : String} {x : Node}
    (hx : x ∈ (NodeList.inlines (tokenize text)).members) : s.KeepsText x := by
  obtain ⟨word, hword, rfl⟩ := List.mem_map.mp hx
  rcases mem_tokenize hword with rfl | ⟨word, rfl⟩ <;> trivial

end Setup

/-- **Nothing of the text of a document is lost**, nor put elsewhere. This holds of every document
in other formats than that of slides; on slides it holds if no code in the document has a role of
raw markup, and no division in it gives way to a listing or a subtitle. -/
theorem filtered_text_is_conserved (s : Setup) (format : String) {d : Document}
    (h : format = s.config.slideFormat → ∀ x ∈ d.nodes, s.KeepsText x) :
    (s.filterDocument format d).1.text = d.text := by
  rw [s.filterDocument_eq]
  refine Answers.text_document (s.answers_ends format) fun x hx => ?_
  refine s.text_standing format fun hslide => ?_
  obtain ⟨l, hl, hx⟩ := List.mem_flatMap.mp hx
  rcases s.mem_asked format hx with hx | ⟨text, hx⟩
  · exact h hslide x (List.mem_flatMap.mpr ⟨l, hl, hx⟩)
  · exact s.keepsText_word hx

/-- A tool name with blanks in it, in a note for the speaker below a block quote. -/
def sampleDeck : Document where
  apiVersion := [1, 22]
  metadata := []
  blocks := [.blockQuote [.para [.str "See"]],
    .div (.ofClasses ["container", "speakernote"])
      [.para [.code ⟨"", ["interpreted-text"], [("role", "toolname")]⟩ "GNAT  Pro"]]]

/-- What becomes of `sampleDeck`. -/
def filteredDeck : Document where
  apiVersion := [1, 22]
  metadata := []
  blocks := [.para [.str "See"], .raw "latex" "\\note\x7b",
    .para [.styled .smallCaps [.str "GNAT", .space, .str "", .space, .str "Pro"]],
    .raw "latex" "\x7d"]

theorem filtered_text_is_conserved_deck :
    (Setup.plain.filterDocument "beamer" sampleDeck).1 = filteredDeck ∧
      filteredDeck.text = sampleDeck.text := by
  have hfiltered : (Setup.plain.filterDocument "beamer" sampleDeck).1 = filteredDeck := by
    rfl
  have hcode : Setup.plain.KeepsText
      (.inline (.code ⟨"", ["interpreted-text"], [("role", "toolname")]⟩ "GNAT  Pro")) := by
    intro role f hrole hformat
    obtain rfl : "toolname" = role := Option.some.inj (Attr.hasRole_iff.mp hrole)
    obtain rfl : RoleFormat.smallCaps = f := Option.some.inj hformat
    decide
  have hdiv (content : List Block) : Setup.plain.KeepsText
      (.block (.div (.ofClasses ["container", "speakernote"]) content)) := by
    change some ContainerKind.speakerNote ≠ some .sourceInclude ∧
      some ContainerKind.speakerNote ≠ some .languageVariant
    decide
  refine ⟨hfiltered, ?_⟩
  rw [← hfiltered]
  refine filtered_text_is_conserved Setup.plain "beamer" fun _ => ?_
  simp only [sampleDeck, Document.nodes, Document.lists, metaEntriesLists, NodeList.nodes_eq,
    NodeList.members, Node.nodes, Node.lists, Block.lists, Inline.lists, List.flatMap_cons,
    List.flatMap_nil, List.map_cons, List.map_nil, List.append_nil, List.nil_append,
    List.cons_append, List.forall_mem_cons]
  exact ⟨trivial, trivial, trivial, hdiv _, trivial, hcode, List.forall_mem_nil _⟩

end DeckFilter
