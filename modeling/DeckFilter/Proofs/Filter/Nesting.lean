import DeckFilter.Proofs.Filter.Results
import DeckFilter.Proofs.Overlay.Selectors
import DeckFilter.Proofs.Walk.Places

/-!
# Environments nest

On slides, containers give way to their content between two raw blocks, which open and close an
environment. However containers stand in each other, in every list that comes out each opening block
has its closing block, and they nest.

* `Latex.Delimits`: the texts that open and close environments;
* `Latex.Nested`: lists of blocks in which environments nest, with `Nested.append`;
* `Setup.nested_block`: environments nest in what stands in place of a block;
* `generated_environments_nest`: so they do in every list of a filtered document.
-/

namespace DeckFilter

/-! ## Environments -/

theorem Container.subtitle_eq (boxColor text : String) :
    ∃ rest, subtitle boxColor text = "\\framesubtitle\x7b" ++ rest := by
  rw [subtitle, Latex.group, String.append_assoc, ← String.append_assoc]
  exact ⟨_, rfl⟩

theorem Block.mapLists_eq_raw {f : List Inline → List Inline} {g : List Block → List Block}
    {x : Block} {format text : String} :
    x.mapLists f g = .raw format text ↔ x = .raw format text := by
  cases x <;> simp [mapLists]

namespace Latex

/-- The first text opens what the second closes: a note, staged content, or an environment. -/
inductive Delimits : String → String → Prop where
  | note : Delimits "\\note\x7b" "\x7d"
  | overlays {specification : String} (h : Overlay.IsSpecification specification) :
      Delimits ("\\begin\x7bvisibleenv\x7d" ++ specification) "\\end\x7bvisibleenv\x7d"
  | environment (name : String) :
      Delimits ("\\begin\x7b" ++ name ++ "\x7d") ("\\end\x7b" ++ name ++ "\x7d")

/-- Environments nest in a list: it is empty, or it starts with a block that is not raw, with a
subtitle, or with an opening block that has its closing block further on in the list. -/
inductive Nested (rawFormat : String) : List Block → Prop where
  | nil : Nested rawFormat []
  | block {x : Block} {xs : List Block} (hx : ∀ format text, x ≠ .raw format text)
      (h : Nested rawFormat xs) : Nested rawFormat (x :: xs)
  | subtitle {text : String} {xs : List Block} (h : Nested rawFormat xs) :
      Nested rawFormat (.raw rawFormat ("\\framesubtitle\x7b" ++ text) :: xs)
  | environment {before after : String} {xs ys : List Block} (h : Delimits before after)
      (hxs : Nested rawFormat xs) (hys : Nested rawFormat ys) :
      Nested rawFormat (.raw rawFormat before :: xs ++ .raw rawFormat after :: ys)

section Nested

variable {rawFormat : String}

theorem Nested.append {xs ys : List Block} (h : Nested rawFormat xs) (hys : Nested rawFormat ys) :
    Nested rawFormat (xs ++ ys) := by
  induction h with
  | nil => exact hys
  | block hx _ ih => exact .block hx ih
  | subtitle _ ih => exact .subtitle ih
  | environment h hxs _ _ ih =>
    rw [List.append_assoc, List.cons_append]
    exact .environment h hxs ih

theorem Nested.wrap {before after : String} (h : Delimits before after) {xs : List Block}
    (hxs : Nested rawFormat xs) : Nested rawFormat (wrap rawFormat before xs after) :=
  .environment h hxs .nil

theorem Nested.flatMap {α : Type} {xs : List α} {f : α → List Block}
    (h : ∀ x ∈ xs, Nested rawFormat (f x)) : Nested rawFormat (xs.flatMap f) := by
  induction xs with
  | nil => exact .nil
  | cons x xs ih =>
    obtain ⟨hx, hxs⟩ := List.forall_mem_cons.mp h
    exact hx.append (ih hxs)

theorem nested_of_not_raw {xs : List Block} (h : ∀ format text, .raw format text ∉ xs) :
    Nested rawFormat xs := by
  induction xs with
  | nil => exact .nil
  | cons x xs ih =>
    refine .block (fun format text hx => h format text ?_) (ih fun format text hmem => ?_)
    · exact hx ▸ List.mem_cons_self
    · exact h format text (List.mem_cons_of_mem x hmem)

theorem Nested.map_mapLists {xs : List Block} (h : Nested rawFormat xs)
    (f : List Inline → List Inline) (g : List Block → List Block) :
    Nested rawFormat (xs.map (Block.mapLists f g)) := by
  induction h with
  | nil => exact .nil
  | block hx _ ih =>
    exact .block (fun format text h => hx format text (Block.mapLists_eq_raw.mp h)) ih
  | subtitle _ ih => exact .subtitle ih
  | environment h _ _ hxs hys =>
    rw [List.map_append]
    exact .environment h hxs hys

end Nested

end Latex

/-! ## Blocks -/

namespace Setup

open Latex

variable (s : Setup)

theorem nested_containerAfter {kind : ContainerKind} {attr : Attr} {content : List Block}
    (h : Nested s.config.rawFormat content) :
    Nested s.config.rawFormat (s.containerAfter kind attr content) := by
  have hkept : Nested s.config.rawFormat [.div attr content] := .block (by simp) .nil
  cases kind with
  | speakerNote => exact .wrap .note h
  | animate => exact .wrap (.overlays (Overlay.specification_isSpecification _)) h
  | latexEnvironment =>
    change Nested _ (Container.environment s.config.rawFormat attr.classes content)
    rw [Container.environment]
    cases attr.classes[2]? with
    | some name => exact .wrap (.environment name) h
    | none => exact h
  | sourceInclude =>
    rcases s.containerAfter_sourceInclude attr with hdiv | ⟨a, text, hlisting⟩
    · rw [hdiv]
      exact hkept
    · rw [hlisting]
      exact .block (by simp) .nil
  | languageVariant =>
    rw [containerAfter_languageVariant]
    cases Container.paragraphs? attr content with
    | none => exact hkept
    | some paragraphs =>
      obtain ⟨rest, hrest⟩ :=
        Container.subtitle_eq s.config.boxColor (Container.plainText paragraphs.2)
      dsimp only
      rw [hrest]
      exact .subtitle .nil

/-- **Environments nest in what stands in place of a block**, if no block in it is raw. -/
theorem nested_block {x : Block}
    (h : ∀ format text, .block (.raw format text) ∉ (Node.block x).nodes) :
    Nested s.config.rawFormat ((s.answers s.config.slideFormat).block x) := by
  have hkept : Nested s.config.rawFormat [x] :=
    .block (fun format text hx => h format text (hx ▸ List.mem_cons_self)) .nil
  have hcontent {content : List Block} (hlists : .blocks content ∈ (Node.block x).lists) :
      Nested s.config.rawFormat content := by
    refine nested_of_not_raw fun format text hmem => h format text ?_
    refine Node.mem_nodes_of_mem hlists ?_
    exact NodeList.mem_nodes_of_mem (List.mem_map_of_mem hmem) List.mem_cons_self
  cases x using Block.edit_cases with
  | blockQuote content =>
    rw [block_blockQuote]
    split_ifs
    · exact hkept
    · exact hcontent List.mem_cons_self
  | header level attr content =>
    rw [block_header]
    exact .block nofun .nil
  | div attr content =>
    rw [block_div]
    cases Container.kind? attr content with
    | none => exact hkept
    | some kind => exact s.nested_containerAfter (hcontent List.mem_cons_self)
  | stays x hquote hheader hdiv =>
    rw [s.block_stays hquote hheader hdiv]
    exact hkept

/-- **Environments nest in what becomes of a list**, if no block in it is raw. -/
theorem nested_after {xs : List Block} (h : ∀ x ∈ xs, ∀ format text,
      .block (.raw format text) ∉ (Node.block x).nodes) :
    Nested s.config.rawFormat ((s.answers s.config.slideFormat).blocksAfter xs) := by
  rw [Answers.blocksAfter_eq (s.answers_ends _)]
  exact .flatMap fun x hx => (s.nested_block (h x hx)).map_mapLists _ _

end Setup

/-- **Generated environments nest.** On slides, in every list of blocks of a document that was
filtered, at every depth and in the metadata, every opening block has its closing block, if the
document had no raw blocks; in other formats, it still has none. -/
theorem generated_environments_nest (s : Setup) (format : String) (d : Document)
    (h : ∀ rawFormat text, .block (.raw rawFormat text) ∉ d.nodes) :
    (format = s.config.slideFormat → ∀ place xs,
      (s.filterDocument format d).1.at? place = some (.blocks xs) →
        Latex.Nested s.config.rawFormat xs) ∧
    (format ≠ s.config.slideFormat → ∀ rawFormat text,
      .block (.raw rawFormat text) ∉ (s.filterDocument format d).1.nodes) := by
  rw [s.filterDocument_eq]
  have ha := s.answers_ends format
  -- a block that is asked about is a block of the document, as words are inlines
  have hasked {x : Block} (hx : .block x ∈ d.lists.flatMap (s.answers format).asked) :
      .block x ∈ d.nodes := by
    obtain ⟨l, hl, hx⟩ := List.mem_flatMap.mp hx
    refine List.mem_flatMap.mpr ⟨l, hl, (s.mem_asked format hx).resolve_right ?_⟩
    rintro ⟨text, hword⟩
    obtain ⟨word, -, hword⟩ := List.mem_map.mp hword
    cases hword
  constructor
  · rintro rfl place xs hxs
    obtain ⟨l₀, hl₀, hmembers⟩ := Answers.exists_asked_of_document_at? ha hxs
    cases l₀ with
    | inlines ys => cases hl₀
    | blocks ys =>
      obtain rfl := NodeList.blocks.inj hl₀
      refine s.nested_after fun x hx rawFormat text hraw => h rawFormat text ?_
      obtain ⟨l, hl, hx⟩ := List.mem_flatMap.mp (hasked (hmembers _ (List.mem_map_of_mem hx)))
      exact List.mem_flatMap.mpr ⟨l, hl, NodeList.mem_nodes_of_mem_nodes hx hraw⟩
  · intro hslide rawFormat text hraw
    obtain ⟨z, hz, y, hy, hzy⟩ := Answers.exists_asked_of_mem_document ha hraw
    cases z with
    | inline z =>
      obtain ⟨y, -, rfl⟩ := List.mem_map.mp hy
      cases hzy
    | block z =>
      rw [Answers.standing, s.block_of_ne format hslide, List.map_singleton,
        List.mem_singleton] at hy
      subst hy
      rw [Block.mapLists_eq_raw.mp (Node.block.inj hzy).symm] at hz
      exact h rawFormat text (hasked hz)

/-- A note in the metadata, and staged content in a list in an environment. -/
def sampleStages : Document where
  apiVersion := [1, 22]
  metadata := [("abstract", .blocks [.div (.ofClasses ["container", "speakernote"]) [.para []]])]
  blocks := [.div (.ofClasses ["container", "latex_environment", "small"])
    [.bulletList [[.div (.ofClasses ["container", "animate", "3-"]) [.para [.str "later"]]]]]]

/-- What becomes of `sampleStages` on slides. -/
def filteredStages : Document where
  apiVersion := [1, 22]
  metadata := [("abstract", .blocks [.raw "latex" "\\note\x7b", .para [], .raw "latex" "\x7d"])]
  blocks := [.raw "latex" "\\begin\x7bsmall\x7d",
    .bulletList [[.raw "latex" "\\begin\x7bvisibleenv\x7d<3->", .para [.str "later"],
      .raw "latex" "\\end\x7bvisibleenv\x7d"]],
    .raw "latex" "\\end\x7bsmall\x7d"]

theorem generated_environments_nest_stages :
    (∀ rawFormat text, .block (.raw rawFormat text) ∉ sampleStages.nodes) ∧
      (Setup.plain.filterDocument "beamer" sampleStages).1 = filteredStages ∧
      Latex.Nested "latex" [.raw "latex" "\\note\x7b", .para [], .raw "latex" "\x7d"] ∧
      Latex.Nested "latex" filteredStages.blocks ∧
      Latex.Nested "latex" [.raw "latex" "\\begin\x7bvisibleenv\x7d<3->",
        .para [.str "later"], .raw "latex" "\\end\x7bvisibleenv\x7d"] ∧
      .block (.raw "latex" "\x7d") ∉ (Setup.plain.filterDocument "html" sampleStages).1.nodes := by
  have hraw : ∀ rawFormat text, .block (.raw rawFormat text) ∉ sampleStages.nodes := by
    intro rawFormat text
    simp [sampleStages, Document.nodes, Document.lists, metaEntriesLists, MetaValue.lists,
      NodeList.nodes_eq, NodeList.members, Node.nodes, Node.lists, Block.lists, Inline.lists]
  have hfiltered : (Setup.plain.filterDocument "beamer" sampleStages).1 = filteredStages := by
    rfl
  obtain ⟨hslides, -⟩ := generated_environments_nest Setup.plain "beamer" sampleStages hraw
  obtain ⟨-, hhtml⟩ := generated_environments_nest Setup.plain "html" sampleStages hraw
  rw [hfiltered] at hslides
  exact ⟨hraw, hfiltered, hslides rfl (0, []) _ rfl, hslides rfl (1, []) _ rfl,
    hslides rfl (1, [(1, 0)]) _ rfl, hhtml (by decide) _ _⟩

end DeckFilter
