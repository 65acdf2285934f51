import DeckFilter.Proofs.Files.SearchPath
import DeckFilter.Proofs.Filter.Results

/-!
# Nothing is left to do

No inline of a filtered document waits for anything more, wherever it stands: every inline was asked
about where it stands, or was put in by an edit that leaves nothing to do.

* `Setup.Settled`: there is nothing left to do for an inline;
* `Setup.inline_settled`: what stands in place of an inline is settled;
* `filtered_inlines_are_settled`: all inlines of a filtered document are.
-/

namespace DeckFilter

namespace Setup

variable (s : Setup) (format : String)

/-- There is nothing left to do for an inline: it is no title, no image that is found elsewhere, and
no code with a role, unless its role is raw markup and the format is not that of slides. -/
def Settled : Inline → Prop
  | .span attr _ => ¬attr.hasClass "title-ref"
  | .image _ _ target => resolve s.files s.environment.searchPath target.url = target.url
  | .code attr _ => ∀ role, attr.HasRole role →
      format ≠ s.config.slideFormat ∧ ∃ f, s.config.role? role = some f ∧ f.isRaw
  | _ => True

theorem settled_mapLists (f : List Inline → List Inline) (g : List Block → List Block)
    (x : Inline) : s.Settled format (x.mapLists f g) ↔ s.Settled format x := by
  cases x <;> exact Iff.rfl

theorem codeAfter_settled (attr : Attr) (text : String) :
    s.Settled format (s.codeAfter format attr text) := by
  rw [codeAfter]
  cases hrole : Role.roleOf? attr with
  | none => exact fun role h => absurd h (Attr.forall_not_hasRole_iff.mpr hrole role)
  | some role =>
    dsimp only
    cases hformat : s.config.role? role with
    | none => trivial
    | some f =>
      dsimp only
      split_ifs with hraw hslide
      · trivial
      · intro role' h
        obtain rfl : role = role' := Option.some.inj (hrole.symm.trans (Attr.hasRole_iff.mp h))
        exact ⟨hslide, f, hformat, hraw⟩
      · trivial

/-- **What stands in place of an inline is settled.** -/
theorem inline_settled {x y : Inline} (hy : y ∈ (s.answers format).inline x) :
    s.Settled format y := by
  cases x using Inline.edit_cases with
  | code attr text =>
    rw [inline_code, List.mem_singleton] at hy
    rw [hy]
    exact s.codeAfter_settled format attr text
  | image attr description target =>
    rw [inline_image, List.mem_singleton] at hy
    rw [hy]
    exact resolve_resolve s.files s.environment.searchPath target.url
  | span attr content =>
    rw [inline_span] at hy
    split_ifs at hy with htitle
    · rw [List.mem_singleton.mp hy]
      trivial
    · rw [List.mem_singleton.mp hy]
      exact htitle
  | stays x hcode himage hspan =>
    rw [s.inline_stays format hcode himage hspan, List.mem_singleton] at hy
    rw [hy]
    cases x with
    | code attr text => exact absurd rfl (hcode attr text)
    | image attr description target => exact absurd rfl (himage attr description target)
    | span attr content => exact absurd rfl (hspan attr content)
    | _ => trivial

end Setup

/-- **Nothing is left to do in a filtered document**: at every depth and in the metadata, no span is
a title, every image has the name it is found under, and a code inline with a role is there only if
the role is raw markup and the format is not that of slides. -/
theorem filtered_inlines_are_settled (s : Setup) (format : String) (d : Document) {x : Inline}
    (hx : .inline x ∈ (s.filterDocument format d).1.nodes) : s.Settled format x := by
  rw [s.filterDocument_eq] at hx
  obtain ⟨z, -, y, hy, h⟩ := Answers.exists_asked_of_mem_document (s.answers_ends format) hx
  cases z with
  | inline z =>
    obtain ⟨y, hstanding, rfl⟩ := List.mem_map.mp hy
    rw [Node.inline.inj h, Setup.settled_mapLists]
    exact s.inline_settled format hstanding
  | block z =>
    obtain ⟨y, -, rfl⟩ := List.mem_map.mp hy
    cases h

/-- A run that finds one image along its search path. -/
def imageSetup : Setup :=
  ⟨.default, ⟨false, some "img"⟩, ⟨fun name => name == "img/a.png", fun _ => .error .notFound⟩⟩

/-- A title in the metadata, an image in a note, and a role of raw markup. -/
def sampleArticle : Document where
  apiVersion := [1, 22]
  metadata := [("title", .inlines [.span (.ofClasses ["title-ref"]) [.str "T"]])]
  blocks := [.para [.note [.plain [.image .empty [] ⟨"a.png", ""⟩]],
    .code ⟨"", ["interpreted-text"], [("role", "menu")]⟩ "File"]]

/-- What becomes of `sampleArticle`. -/
def filteredArticle : Document where
  apiVersion := [1, 22]
  metadata := [("title", .inlines [.styled .strong [.str "T"]])]
  blocks := [.para [.note [.plain [.image .empty [] ⟨"img/a.png", ""⟩]],
    .code ⟨"", ["interpreted-text"], [("role", "menu")]⟩ "File"]]

theorem filtered_inlines_are_settled_article :
    (imageSetup.filterDocument "html" sampleArticle).1 = filteredArticle ∧
      imageSetup.Settled "html" (.image .empty [] ⟨"img/a.png", ""⟩) ∧
      imageSetup.Settled "html" (.code ⟨"", ["interpreted-text"], [("role", "menu")]⟩ "File") := by
  have hlocate : imageSetup.locate ⟨"a.png", ""⟩ = ⟨"img/a.png", ""⟩ := by
    decide +kernel
  have hfiltered : (imageSetup.filterDocument "html" sampleArticle).1 = filteredArticle := by
    rw [filteredArticle, ← hlocate]
    rfl
  have hnodes : ∀ x, .inline x ∈ filteredArticle.nodes → imageSetup.Settled "html" x :=
    fun x hx => filtered_inlines_are_settled imageSetup "html" sampleArticle (hfiltered ▸ hx)
  simp only [filteredArticle, Document.nodes, Document.lists, metaEntriesLists, MetaValue.lists,
    NodeList.nodes_eq, NodeList.members, Node.nodes, Node.lists, Block.lists, Inline.lists,
    List.flatMap_cons, List.flatMap_nil, List.map_cons, List.map_nil, List.append_nil,
    List.nil_append, List.cons_append] at hnodes
  exact ⟨hfiltered, hnodes _ (by simp), hnodes _ (by simp)⟩

end DeckFilter
