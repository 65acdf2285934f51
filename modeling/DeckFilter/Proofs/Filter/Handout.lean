import DeckFilter.Proofs.Filter.Results
import DeckFilter.Proofs.Filter.Unnoticed
import DeckFilter.Proofs.Walk.Alike

/-!
# Handouts keep explanations to themselves

Explanations are for instructors. On slides for everyone else a blank stands in place of every
explanation, and nothing that becomes of any node, or is reported about it, depends on its text.

* `Config.Explains`, `Config.hide`: the explanations of a document, without their texts;
* `Setup.standing_hideNode`, `Setup.said_hideNode`: a node is filtered as if they were hidden;
* `handouts_hide_explanations`: so is a document.
-/

namespace DeckFilter

/-! ## Explanations -/

namespace Config

variable (c : Config)

/-- A code inline with these attributes explains something to instructors. -/
def Explains (attr : Attr) : Prop := ∃ role, attr.HasRole role ∧ c.role? role = some .animate

theorem explains_iff (attr : Attr) :
    c.Explains attr ↔ (Role.roleOf? attr).bind c.role? = some .animate := by
  simp only [Explains, Option.bind_eq_some_iff, Attr.hasRole_iff]

instance (attr : Attr) : Decidable (c.Explains attr) := decidable_of_iff' _ (c.explains_iff attr)

/-- An inline with its text hidden if it is an explanation. -/
def hideInline : Inline → Inline
  | .code attr text => .code attr (if c.Explains attr then "" else text)
  | x => x

/-- A node with its text hidden if it is an explanation. -/
def hideNode : Node → Node
  | .inline x => .inline (c.hideInline x)
  | .block x => .block x

/-- Every node stays, with its text hidden if it is an explanation. -/
def hidden : Answers := ⟨fun x => [c.hideInline x], fun x => [x]⟩

/-- A document with the texts of all explanations hidden. -/
def hide (d : Document) : Document := c.hidden.document d

theorem standing_hidden (x : Node) : c.hidden.standing x = [c.hideNode x] := by
  cases x <;> rfl

theorem hideInline_shallow : Answers.Shallow c.hideInline where
  mapLists x f g := by cases x <;> rfl
  lists x := by cases x <;> rfl

theorem hidden_ends : c.hidden.Ends := c.hideInline_shallow.ends

theorem inlinesAfter_hidden (xs : List Inline) : c.hidden.inlinesAfter xs = xs.map fun x =>
    (c.hideInline x).mapLists c.hidden.inlinesAfter c.hidden.blocksAfter := by
  rw [Answers.inlinesAfter_eq c.hidden_ends, List.map_eq_flatMap]
  rfl

theorem blocksAfter_hidden (xs : List Block) : c.hidden.blocksAfter xs =
    xs.map (Block.mapLists c.hidden.inlinesAfter c.hidden.blocksAfter) := by
  rw [Answers.blocksAfter_eq c.hidden_ends, List.map_eq_flatMap]
  rfl

theorem hidden_unnoticed : Unnoticed c.hidden.inlinesAfter c.hidden.blocksAfter := by
  refine ⟨c.blocksAfter_hidden, ?_, ?_, ?_⟩
  · intro xs
    rw [inlinesAfter_hidden, Container.plainText, Container.plainText, List.map_map]
    refine congrArg String.join (List.map_congr_left fun x _ => ?_)
    cases x <;> rfl
  · intro xs
    rw [inlinesAfter_hidden, Container.leftOut, Container.leftOut, List.filterMap_map]
    refine List.filterMap_congr fun x _ => ?_
    cases x <;> rfl
  · intro text
    rw [inlinesAfter_hidden]
    refine (List.map_congr_left fun x hx => ?_).trans (List.map_id _)
    rcases mem_tokenize hx with rfl | ⟨word, rfl⟩ <;> rfl

end Config

/-! ## Nodes -/

theorem Role.formatCode_explanation {config : Config} {env : Environment} {attr : Attr}
    (henv : env.instructor = false) (h : config.Explains attr) (text text' : String) :
    formatCode config env attr text = formatCode config env attr text' := by
  obtain ⟨role, hrole, hformat⟩ := h
  have hrender : ∀ text, render config env .animate text = some " " := by
    intro text
    rw [render, henv]
    rfl
  have hrole := Attr.hasRole_iff.mp hrole
  rw [formatCode_of_isRaw hrole hformat rfl, formatCode_of_isRaw hrole hformat rfl, hrender,
    hrender]

namespace Setup

variable (s : Setup)

theorem codeAfter_explanation {attr : Attr} (henv : s.environment.instructor = false)
    (h : s.config.Explains attr) (text : String) :
    s.codeAfter s.config.slideFormat attr text = .raw s.config.rawFormat " " := by
  obtain ⟨role, hrole, hformat⟩ := h
  rw [s.codeAfter_of_isRaw _ (Attr.hasRole_iff.mp hrole) hformat rfl, if_pos rfl, Role.render, henv]
  rfl

theorem editInline_hideInline (henv : s.environment.instructor = false) (x : Inline) :
    s.editInline (s.config.hideInline x) = s.editInline x := by
  cases x with
  | code attr text =>
    rw [Config.hideInline]
    split_ifs with h
    · have hattempt : s.attemptInline (.code attr "") = s.attemptInline (.code attr text) :=
        Role.formatCode_explanation henv h "" text
      rw [editInline, editInline, hattempt]
      rfl
    · rfl
  | _ => rfl

/-- **The same stands in place of a node if its text is hidden**, on slides for everyone else. -/
theorem standing_hideNode (henv : s.environment.instructor = false) (x : Node) :
    (s.answers s.config.slideFormat).standing (s.config.hideNode x) =
      (s.answers s.config.slideFormat).standing x := by
  cases x with
  | block x => rfl
  | inline x =>
    refine congrArg (List.map Node.inline) ?_
    cases x with
    | code attr text =>
      rw [Config.hideInline]
      split_ifs with h
      -- the node itself goes, so its text stands nowhere in the answer
      · rw [inline_code, inline_code, s.codeAfter_explanation henv h,
          s.codeAfter_explanation henv h]
      · rfl
    | _ => rfl

/-- **The same is reported about a node if its text is hidden.** -/
theorem said_hideNode (henv : s.environment.instructor = false) (format : String) (x : Node) :
    s.said format (s.config.hideNode x) = s.said format x := by
  cases x with
  | block x => rfl
  | inline x =>
    change ((s.editInline (s.config.hideInline x)).run (.start format)).2 = _
    rw [s.editInline_hideInline henv]
    rfl

/-! ## Documents -/

/-- **A document is filtered for everyone else as if the texts of its explanations were hidden.** -/
theorem filterDocument_hide (henv : s.environment.instructor = false) (d : Document) :
    s.filterDocument s.config.slideFormat (s.config.hide d) =
      s.filterDocument s.config.slideFormat d := by
  have ha := s.answers_ends s.config.slideFormat
  have hb := s.config.hidden_ends
  have hunnoticed := s.config.hidden_unnoticed
  have habsorb : ∀ x, (s.answers s.config.slideFormat).standing ((s.config.hideNode x).mapLists
      s.config.hidden.inlinesAfter s.config.hidden.blocksAfter) =
      ((s.answers s.config.slideFormat).standing x).map
        (Node.mapLists s.config.hidden.inlinesAfter s.config.hidden.blocksAfter) := by
    intro x
    rw [s.standing_mapLists hunnoticed, s.standing_hideNode henv]
  have hdocument := Answers.document_document ha hb s.config.standing_hidden habsorb d
  have hasked := Answers.asked_after ha hb s.config.standing_hidden habsorb
  have hlists : (s.config.hide d).lists = d.lists.map s.config.hidden.after :=
    Document.lists_mapLists _ _ d
  have hsaid : s.saidAll s.config.slideFormat
      ((s.config.hide d).lists.flatMap (s.answers s.config.slideFormat).asked) =
      s.saidAll s.config.slideFormat (d.lists.flatMap (s.answers s.config.slideFormat).asked) := by
    rw [hlists, List.flatMap_map]
    simp only [hasked]
    rw [← List.map_flatMap]
    refine s.saidAll_map _ _ fun x => ?_
    rw [s.said_mapLists hunnoticed, s.said_hideNode henv]
  rw [s.filterDocument_eq, s.filterDocument_eq, hsaid, Config.hide, hdocument]

end Setup

/-- **Handouts do not leak explanations.** On slides for everyone but instructors, two documents
that differ in the texts of explanations alone become the same document, and the same is said about
them. -/
theorem handouts_hide_explanations (s : Setup) (henv : s.environment.instructor = false)
    {d d' : Document} (h : s.config.hide d = s.config.hide d') :
    s.filterDocument s.config.slideFormat d = s.filterDocument s.config.slideFormat d' := by
  rw [← s.filterDocument_hide henv d, ← s.filterDocument_hide henv d', h]

/-- An explanation in the metadata, in a header, and in a note of an admonition. -/
def sampleHandout (text : String) : Document where
  apiVersion := [1, 22]
  metadata := [("subtitle", .inlines [explanation])]
  blocks := [.header 1 .empty [explanation],
    .div (.ofClasses ["admonition"]) [.para [.str "Note"], .para [.note [.plain [explanation]]]]]
where
  explanation : Inline := .code ⟨"", ["interpreted-text"], [("role", "animate")]⟩ text

theorem handouts_hide_explanations_sample :
    sampleHandout "yes" ≠ sampleHandout "no" ∧
      Setup.plain.config.hide (sampleHandout "yes") =
        Setup.plain.config.hide (sampleHandout "no") ∧
      Setup.plain.filterDocument "beamer" (sampleHandout "yes") =
        Setup.plain.filterDocument "beamer" (sampleHandout "no") := by
  have hhide : Setup.plain.config.hide (sampleHandout "yes") =
      Setup.plain.config.hide (sampleHandout "no") := rfl
  refine ⟨?_, hhide, handouts_hide_explanations Setup.plain rfl hhide⟩
  simp [sampleHandout, sampleHandout.explanation]

end DeckFilter
