import DeckFilter.Proofs.Filter.Settled
import DeckFilter.Proofs.Walk.Places

/-!
# Formats other than that of slides

In these formats blocks stay, and every inline gives way to one inline, with the same lists below it
or the words of a literal. So all lists keep their places, and a second run has nothing to do.

* `Setup.nodeAfter`: what stands in place of a node;
* `Setup.answers_changesTo`: every node gives way to one node;
* `Setup.standing_of_settled`: settled inlines stay;
* `other_formats_keep_blocks`: blocks are kept, and a second run changes nothing.
-/

namespace DeckFilter

namespace Setup

variable (s : Setup) (format : String)

/-! ## One node for every node -/

/-- What stands in place of a node where blocks stay. -/
def nodeAfter : Node → Node
  | .inline x => .inline (s.inlineAfter format x)
  | .block x => .block x

theorem lists_nodeAfter (x : Node) : (s.nodeAfter format x).lists = x.lists ∨
    x.lists = [] ∧ ∃ text, (s.nodeAfter format x).lists = [.inlines (tokenize text)] := by
  cases x with
  | inline x => exact s.lists_inlineAfter format x
  | block x => exact Or.inl rfl

/-- **Every node gives way to one node**, with the same lists below it or the words of a literal. -/
theorem answers_changesTo {format : String} (h : format ≠ s.config.slideFormat) :
    (s.answers format).ChangesTo (s.nodeAfter format) where
  standing x := by
    cases x with
    | inline x =>
      rw [Answers.standing, inline_eq_singleton]
      rfl
    | block x =>
      rw [Answers.standing, s.block_of_ne format h]
      rfl
  below x := by
    refine (s.lists_nodeAfter format x).imp_right ?_
    rintro ⟨hnone, text, htext⟩
    exact ⟨hnone, tokenize text, htext, fun w hw => lists_word hw⟩

theorem filterMap_below {γ : Type} {own : Node → Option γ} (hspace : own (.inline .space) = none)
    (hstr : ∀ word, own (.inline (.str word)) = none) (x : Node) :
    ((s.nodeAfter format x).lists.flatMap fun l => l.nodes.filterMap own) =
      x.lists.flatMap fun l => l.nodes.filterMap own := by
  rcases s.lists_nodeAfter format x with hlists | ⟨hnone, text, htext⟩
  · rw [hlists]
  · rw [hnone, htext, List.flatMap_singleton, nodes_tokenize, List.flatMap_nil]
    refine List.filterMap_eq_nil_iff.mpr fun w hw => ?_
    obtain ⟨word, hword, rfl⟩ := List.mem_map.mp hw
    rcases mem_tokenize hword with rfl | ⟨word, rfl⟩
    · exact hspace
    · exact hstr word

/-! ## A second run -/

/-- **Settled inlines stay.** -/
theorem standing_of_settled {x : Inline} (h : s.Settled format x) :
    (s.answers format).inline x = [x] := by
  rw [inline_eq_singleton]
  cases x with
  | code attr text =>
    rw [inlineAfter]
    cases hrole : Role.roleOf? attr with
    | none => rw [codeAfter, hrole]
    | some role =>
      obtain ⟨hslide, f, hformat, hraw⟩ := h role (Attr.hasRole_iff.mpr hrole)
      rw [s.codeAfter_of_isRaw format hrole hformat hraw, if_neg hslide]
  | image attr description target =>
    have htarget : s.locate target = target := congrArg (Target.mk · target.title) h
    rw [inlineAfter, htarget]
  | span attr content => rw [inlineAfter, if_neg h]
  | _ => rfl

theorem document_document_of_ne {format : String} (h : format ≠ s.config.slideFormat)
    (d : Document) : (s.answers format).document ((s.answers format).document d) =
      (s.answers format).document d := by
  have ha := s.answers_ends format
  refine Answers.document_eq_self ha fun z hz => ?_
  obtain ⟨x, -, y, hy, rfl⟩ := Answers.exists_asked_of_mem_document ha hz
  cases x with
  | inline x =>
    obtain ⟨y, hstanding, rfl⟩ := List.mem_map.mp hy
    have hsettled := s.inline_settled format hstanding
    have hstays := s.standing_of_settled format ((s.settled_mapLists format
      (s.answers format).inlinesAfter (s.answers format).blocksAfter y).mpr hsettled)
    exact congrArg (List.map Node.inline) hstays
  | block x =>
    obtain ⟨y, -, rfl⟩ := List.mem_map.mp hy
    exact congrArg (List.map Node.block) (s.block_of_ne format h _)

end Setup

/-! ## Blocks -/

/-- The format and the text of a raw inline. -/
def Node.rawInline? : Node → Option (String × String)
  | .inline (.raw format text) => some (format, text)
  | _ => none

theorem Setup.rawInline?_nodeAfter (s : Setup) {format : String}
    (h : format ≠ s.config.slideFormat) (f : List Inline → List Inline)
    (g : List Block → List Block) (x : Node) :
    ((s.nodeAfter format x).mapLists f g).rawInline? = x.rawInline? := by
  cases x with
  | block x => rfl
  | inline x =>
    cases x with
    | code attr text =>
      rw [nodeAfter, inlineAfter]
      rcases s.codeAfter_eq_or format attr text with hcode | ⟨hslide, -⟩ | ⟨f, hcode⟩
      · rw [hcode]
        rfl
      · exact absurd hslide h
      · rw [hcode]
        rfl
    | span attr content =>
      rw [nodeAfter, inlineAfter]
      split_ifs <;> rfl
    | _ => rfl

/-- **In formats other than that of slides, a run touches inlines only.** The version of the
document, the keys and the shape of its metadata stay, and so do all blocks, at every place; every
list of inlines becomes a list of as many inlines where it stands, and no raw inline comes or goes.
A second run changes nothing. -/
theorem other_formats_keep_blocks (s : Setup) {format : String}
    (h : format ≠ s.config.slideFormat) (d : Document) :
    (s.filterDocument format d).1.bare = d.bare ∧
    (∀ place, ((s.filterDocument format d).1.at? place).bind NodeList.bareBlocks? =
      (d.at? place).bind NodeList.bareBlocks?) ∧
    (∀ place xs, d.at? place = some (.inlines xs) → ∃ ys,
      (s.filterDocument format d).1.at? place = some (.inlines ys) ∧ ys.length = xs.length) ∧
    (s.filterDocument format d).1.nodes.filterMap Node.rawInline? =
      d.nodes.filterMap Node.rawInline? ∧
    (s.filterDocument format (s.filterDocument format d).1).1 = (s.filterDocument format d).1 := by
  have ha := s.answers_ends format
  have hchange := s.answers_changesTo h
  simp only [s.filterDocument_eq]
  refine ⟨Document.bare_mapLists _ _ d, ?_, ?_, ?_, s.document_document_of_ne h d⟩
  · exact Answers.bareBlocks?_document_at? ha hchange (s.block_of_ne format h) d
  · intro place xs hxs
    exact ⟨_, Answers.document_at? ha hchange hxs, Answers.length_inlinesAfter ha hchange xs⟩
  · exact Answers.filterMap_nodes_document ha hchange
      (s.filterMap_below format rfl fun word => rfl) (s.rawInline?_nodeAfter h _ _) d

/-- A tool name in the metadata, and an image and raw markup in a note of a quoted header. -/
def samplePage : Document where
  apiVersion := [1, 22]
  metadata := [("title", .inlines [.code ⟨"", ["interpreted-text"], [("role", "toolname")]⟩ "A B"])]
  blocks := [.blockQuote [.header 2 .empty
    [.note [.para [.image .empty [] ⟨"a.png", ""⟩, .raw "html" "<br>"]]]]]

/-- What becomes of `samplePage`. -/
def filteredPage : Document where
  apiVersion := [1, 22]
  metadata := [("title", .inlines [.styled .smallCaps [.str "A", .space, .str "B"]])]
  blocks := [.blockQuote [.header 2 .empty
    [.note [.para [.image .empty [] ⟨"img/a.png", ""⟩, .raw "html" "<br>"]]]]]

theorem other_formats_keep_blocks_page :
    "html" ≠ imageSetup.config.slideFormat ∧
      (imageSetup.filterDocument "html" samplePage).1 = filteredPage ∧
      filteredPage.bare = samplePage.bare ∧
      (filteredPage.at? (1, [(0, 0)])).bind NodeList.bareBlocks? = some [.header 2 .empty []] ∧
      (∃ ys, filteredPage.at? (1, [(0, 0), (0, 0), (0, 0), (0, 0)]) = some (.inlines ys) ∧
        ys.length = 2) ∧
      filteredPage.nodes.filterMap Node.rawInline? =
        samplePage.nodes.filterMap Node.rawInline? ∧
      (imageSetup.filterDocument "html" filteredPage).1 = filteredPage := by
  have hformat : "html" ≠ imageSetup.config.slideFormat := by decide
  have hlocate : imageSetup.locate ⟨"a.png", ""⟩ = ⟨"img/a.png", ""⟩ := by
    decide +kernel
  have hfiltered : (imageSetup.filterDocument "html" samplePage).1 = filteredPage := by
    rw [filteredPage, ← hlocate]
    rfl
  obtain ⟨hbare, hblocks, hinlines, hraw, hagain⟩ :=
    other_formats_keep_blocks imageSetup hformat samplePage
  rw [hfiltered] at hbare hblocks hinlines hraw hagain
  exact ⟨hformat, hfiltered, hbare, hblocks (1, [(0, 0)]),
    hinlines (1, [(0, 0), (0, 0), (0, 0), (0, 0)]) _ rfl, hraw, hagain⟩

end DeckFilter
