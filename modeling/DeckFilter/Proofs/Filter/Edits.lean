import DeckFilter.Filter
import DeckFilter.Proofs.Role.Formats
import DeckFilter.Proofs.Role.Tokens
import DeckFilter.Proofs.Walk.Depth

/-!
# What edits put in

Whatever the editor of a run puts in place of a node nests no deeper than the node, as it is
written, and is canonical if the node is.

* `Node.Fits`, `Edit.Fits`: what may stand in place of a node;
* `Attempt.Gives`: what holds of the results of attempts;
* `Setup.attemptBlock_fits`, `Setup.attemptInline_fits`: single nodes;
* `Setup.editor_keepsDepth`, `Setup.editor_keepsCanonical`: the editor of a run.
-/

namespace DeckFilter

open Json (array string depth depthItems)

/-! ## What may stand in place of a node -/

/-- A node that nests no deeper than another one, as they are written, and is canonical if that
is. -/
structure Node.Fits (x y : Node) : Prop where
  depth_le : y.toJson.depth ≤ x.toJson.depth
  canonical : x.Canonical → y.Canonical

/-- An answer that puts only what fits in place of a node. -/
def Edit.Fits {α : Type} (node : α → Node) (x : α) (e : Edit α) : Prop :=
  ∀ y ∈ e.standing x, (node x).Fits (node y)

theorem Node.Fits.refl (x : Node) : x.Fits x := ⟨Nat.le_refl _, id⟩

theorem Edit.fits_unchanged {α : Type} (node : α → Node) (x : α) :
    Edit.Fits node x .unchanged := List.forall_mem_singleton.mpr (.refl _)

theorem Node.fits_of_mem {x y : Node} {l : NodeList} (hl : l ∈ x.lists) (hy : y ∈ l.members) :
    x.Fits y where
  depth_le := Nat.le_of_lt (Nat.lt_trans (NodeList.depth_lt_of_mem hy) (Node.depth_lists hl))
  canonical hx := NodeList.canonical_iff.mp ((Node.canonical_iff.mp hx).2 l hl) y hy

/-! ## Depths of parts -/

theorem depth_stringsToJson (ss : List String) : (stringsToJson ss).depth = 1 := by
  have : depthItems (ss.map string) ≤ 0 :=
    Json.depthItems_le.mpr (List.forall_mem_map.mpr fun s _ => Nat.le_refl 0)
  rw [stringsToJson, depth]
  omega

theorem Attr.two_le_depth (a : Attr) : 2 ≤ a.toJson.depth := by
  rw [toJson, depth, depthItems, depthItems, depth_stringsToJson]
  omega

theorem Attr.depth_ofClasses (classes : List String) : (ofClasses classes).toJson.depth = 2 := by
  rw [toJson, depth, depthItems, depthItems, depth_stringsToJson]
  rfl

theorem Attr.depth_eq_of_pairs {a b : Attr} (h : a.pairs = b.pairs) :
    a.toJson.depth = b.toJson.depth := by
  simp only [toJson, depth, depthItems, depth_stringsToJson, h]

/-! ## Attempts -/

section Attempts

variable {α β : Type} {P : α → Prop} {Q : β → Prop}

/-- Whenever the attempt succeeds, `P` holds of its result. -/
def Attempt.Gives (a : Attempt α) (P : α → Prop) : Prop :=
  ∀ (ctx : Context) (x : α), (a.run.run ctx).1 = .ok x → P x

theorem Attempt.Gives.pure {x : α} (h : P x) : Attempt.Gives (Pure.pure x) P := by
  intro ctx y hy
  cases hy
  exact h

theorem Attempt.Gives.throw (i : Issue) : Attempt.Gives (throw i) P := by
  intro ctx y hy
  cases hy

theorem Attempt.gives_true (a : Attempt α) : a.Gives fun _ => True := fun _ _ _ => trivial

theorem Attempt.Gives.bind {a : Attempt α} {f : α → Attempt β} (h : a.Gives P)
    (hf : ∀ x, P x → (f x).Gives Q) : Attempt.Gives (a >>= f) Q := by
  intro ctx y hy
  have hx := h ctx
  rw [ExceptT.run_bind, StateT.run_bind] at hy
  generalize a.run.run ctx = p at hx hy
  obtain ⟨result, ctx'⟩ := p
  cases result with
  | error i => cases hy
  | ok x => exact hf x (hx x rfl) ctx' y hy

theorem Attempt.Gives.map {a : Attempt α} {f : α → β} (h : a.Gives P) (hf : ∀ x, P x → Q (f x)) :
    Attempt.Gives (f <$> a) Q := by
  rw [map_eq_pure_bind]
  exact h.bind fun x hx => .pure (hf x hx)

/-- **An answer fits if the answers of its attempt do**; a node with an issue stays. -/
theorem settle_fits {node : α → Node} {x : α} {attempt : Attempt (Edit α)} (kind tag : String)
    (h : attempt.Gives (Edit.Fits node x)) (ctx : Context) :
    Edit.Fits node x ((settle kind tag attempt).run ctx).1 := by
  have hanswer := h ctx
  rw [settle, StateT.run_bind]
  generalize attempt.run.run ctx = p at hanswer ⊢
  obtain ⟨result, ctx'⟩ := p
  cases result with
  | error i => exact Edit.fits_unchanged node x
  | ok answer =>
    cases answer with
    | unchanged => exact Edit.fits_unchanged node x
    | delete => exact hanswer _ rfl
    | replace nodes => exact hanswer _ rfl

end Attempts

/-! ## Inlines -/

theorem Node.fits_emphasize {x : Node} {content : List Inline} (format : RoleFormat)
    (hdepth : (array (content.map Inline.toJson)).depth + 1 ≤ x.toJson.depth)
    (hcanon : x.Canonical → (NodeList.inlines content).Canonical) :
    x.Fits (.inline (Role.emphasize format content)) where
  depth_le := by
    rw [Node.toJson, Role.emphasize, Inline.toJson, depth_tagged, inlinesToJson_eq]
    exact hdepth
  canonical hx := Inline.canonical_iff.mpr (List.forall_mem_singleton.mpr (hcanon hx))

theorem lists_word {text : String} {x : Node}
    (hx : x ∈ (NodeList.inlines (tokenize text)).members) : x.lists = [] := by
  obtain ⟨word, hword, rfl⟩ := List.mem_map.mp hx
  rcases mem_tokenize hword with rfl | ⟨word, rfl⟩ <;> rfl

theorem nodes_tokenize (text : String) : (NodeList.inlines (tokenize text)).nodes =
    (NodeList.inlines (tokenize text)).members := by
  rw [NodeList.nodes_eq]
  refine (List.flatMap_congr fun x hx => ?_).trans (List.flatMap_singleton' _)
  rw [Node.nodes, lists_word hx, List.flatMap_nil]

theorem tokenize_canonical (text : String) : (NodeList.inlines (tokenize text)).Canonical :=
  NodeList.canonical_inlines.mpr fun x hx => Inline.canonical_iff.mpr fun l hl => by
    rcases mem_tokenize hx with rfl | ⟨word, rfl⟩ <;> exact absurd hl List.not_mem_nil

theorem depth_tokenize (text : String) :
    (array ((tokenize text).map Inline.toJson)).depth ≤ 2 := by
  have hitems : depthItems ((tokenize text).map Inline.toJson) ≤ 1 :=
    Json.depthItems_le.mpr (List.forall_mem_map.mpr fun x hx => by
      rcases mem_tokenize hx with rfl | ⟨word, rfl⟩ <;> exact Nat.le_refl 1)
  rw [depth]
  omega

theorem Inline.depth_code (attr : Attr) (text : String) : 4 ≤ (code attr text).toJson.depth := by
  have := attr.two_le_depth
  simp only [toJson, depth_tagged, depth, depthItems]
  omega

theorem Role.formatCode_fits (config : Config) (env : Environment) (attr : Attr) (text : String) :
    (formatCode config env attr text).Gives (Edit.Fits .inline (.code attr text)) := by
  have hdepth := Inline.depth_code attr text
  have hemphasized (format : RoleFormat) : Edit.Fits .inline (.code attr text)
      (.replace [emphasize format (tokenize text)]) := by
    have := depth_tokenize text
    exact List.forall_mem_singleton.mpr (Node.fits_emphasize format
      (Nat.le_trans (by omega) hdepth) fun _ => tokenize_canonical text)
  have hraw (rendered : String) : Edit.Fits .inline (.code attr text)
      (.replace [.raw config.rawFormat rendered]) :=
    List.forall_mem_singleton.mpr ⟨Nat.le_trans (by decide : 2 ≤ 4) hdepth, fun _ =>
      Inline.canonical_iff.mpr fun l hl => absurd hl List.not_mem_nil⟩
  refine formatCode_cases (motive := fun attempt => attempt.Gives _) config env attr text
    ?stays ?unknown ?words ?markup
  case stays => exact .pure (Edit.fits_unchanged _ _)
  case unknown => exact fun role => (Attempt.gives_true _).bind fun _ _ => .pure (hemphasized _)
  case words => exact fun f => .pure (hemphasized f)
  case markup =>
    intro role f
    refine (Attempt.gives_true _).bind fun ctx _ => ?_
    split_ifs
    · exact .pure (hraw _)
    · exact .throw _

theorem Role.formatTitle_fits (config : Config) (attr : Attr) (content : List Inline) :
    Edit.Fits .inline (.span attr content) (formatTitle config attr content) := by
  rw [formatTitle]
  split_ifs
  · refine List.forall_mem_singleton.mpr (Node.fits_emphasize _ ?_ fun hx => ?_)
    · rw [Node.toJson, Inline.toJson, inlinesToJson_eq]
      exact depth_lt_tagged (by simp)
    · exact Inline.canonical_iff.mp hx _ List.mem_cons_self
  · exact Edit.fits_unchanged _ _

/-- **What becomes of an inline fits in its place.** -/
theorem Setup.attemptInline_fits (s : Setup) (x : Inline) :
    (s.attemptInline x).Gives (Edit.Fits .inline x) := by
  unfold attemptInline
  split
  · rename_i attr description target
    refine .pure (List.forall_mem_singleton.mpr ⟨Nat.le_of_eq ?_, fun hx => ?_⟩)
    · simp only [Node.toJson, Inline.toJson, depth_tagged, depth, depthItems, Target.toJson]
    · have hlists : ∀ l ∈ (Inline.image attr description target).lists, l.Canonical :=
        Inline.canonical_iff.mp hx
      exact Inline.canonical_iff.mpr hlists
  · exact Role.formatCode_fits _ _ _ _
  · exact .pure (Role.formatTitle_fits _ _ _)
  · exact .pure (Edit.fits_unchanged _ _)

/-! ## Blocks -/

theorem Block.depth_div (attr : Attr) (content : List Block) :
    4 ≤ (div attr content).toJson.depth := by
  have := attr.two_le_depth
  simp only [toJson, depth_tagged, depth, depthItems]
  omega

theorem Block.fits_of_leaf {x : Node} {y : Block} (hx : 4 ≤ x.toJson.depth)
    (hdepth : y.toJson.depth ≤ 4) (hshape : y.WellShaped) (hlists : y.lists = []) :
    x.Fits (.block y) where
  depth_le := Nat.le_trans hdepth hx
  canonical _ := Block.canonical_iff.mpr ⟨hshape, fun l hl => by
    rw [hlists] at hl
    exact absurd hl List.not_mem_nil⟩

section Containers

variable {attr : Attr} {content : List Block}

theorem Block.raw_fits_div (format text : String) :
    (Node.block (.div attr content)).Fits (.block (.raw format text)) :=
  Block.fits_of_leaf (Block.depth_div attr content) (by decide : 2 ≤ 4) trivial rfl

theorem Block.content_fits_div : ∀ y ∈ content,
    (Node.block (.div attr content)).Fits (.block y) := fun _ hy =>
  Node.fits_of_mem (l := .blocks content) List.mem_cons_self (List.mem_map_of_mem hy)

theorem Latex.wrap_fits (rawFormat before after : String) :
    ∀ y ∈ wrap rawFormat before content after,
      (Node.block (.div attr content)).Fits (.block y) := by
  rw [wrap, List.forall_mem_append, List.forall_mem_cons]
  exact ⟨⟨Block.raw_fits_div _ _, Block.content_fits_div⟩,
    List.forall_mem_singleton.mpr (Block.raw_fits_div _ _)⟩

theorem Listing.codeBlock_fits (files : Files) (defaultLanguage : String) :
    (codeBlock files defaultLanguage attr.classes).Gives fun y =>
      (Node.block (.div attr content)).Fits (.block y) := by
  have hfits (language text : String) : (Node.block (.div attr content)).Fits
      (.block (.codeBlock (.ofClasses [language]) text)) := by
    refine Block.fits_of_leaf (Block.depth_div attr content) ?_ trivial rfl
    simp only [Block.toJson, depth_tagged, depth, depthItems, Attr.depth_ofClasses]
    omega
  unfold codeBlock
  dsimp only
  split_ifs
  · exact @Attempt.Gives.bind _ _ (fun _ => False) _ _ _ (.throw _) fun _ h => h.elim
  · exact (Attempt.gives_true _).bind fun text _ => .pure (hfits _ text)

theorem Container.languageVariant_fits (config : Config) :
    (languageVariant config attr content).Gives fun ys =>
      ∀ y ∈ ys, (Node.block (.div attr content)).Fits (.block y) := by
  unfold languageVariant
  split
  · exact .throw _
  · exact (Attempt.gives_true _).bind fun text _ =>
      .pure (List.forall_mem_singleton.mpr (Block.raw_fits_div _ _))

theorem Container.replacement_fits (config : Config) (files : Files) (kind : ContainerKind) :
    (replacement config files kind attr content).Gives fun ys =>
      ∀ y ∈ ys, (Node.block (.div attr content)).Fits (.block y) := by
  cases kind with
  | speakerNote => exact .pure (Latex.wrap_fits _ _ _)
  | sourceInclude =>
    exact (Listing.codeBlock_fits _ _).bind fun y hy => .pure (List.forall_mem_singleton.mpr hy)
  | animate => exact .pure (Latex.wrap_fits _ _ _)
  | latexEnvironment =>
    refine .pure ?_
    rw [environment]
    split
    · exact Latex.wrap_fits _ _ _
    · exact Block.content_fits_div
  | languageVariant => exact languageVariant_fits config

end Containers

theorem Slide.bullets_fits (oneAtATime : Bool) (content : List Block) :
    Edit.Fits .block (.blockQuote content) (bullets oneAtATime content) := by
  rw [bullets]
  split_ifs
  · exact Edit.fits_unchanged _ _
  · exact fun y hy => Node.fits_of_mem (l := .blocks content) List.mem_cons_self
      (List.mem_map_of_mem hy)

theorem Slide.decorate_fits (level : UInt64) (decorators : List String) (attr : Attr)
    (content : List Inline) : Edit.Fits .block (.header level attr content)
      (.replace [.header level (decorate decorators attr) content]) := by
  refine List.forall_mem_singleton.mpr ⟨Nat.le_of_eq ?_, fun hx => ?_⟩
  · have hattr : (decorate decorators attr).toJson.depth = attr.toJson.depth :=
      Attr.depth_eq_of_pairs rfl
    simp only [Node.toJson, Block.toJson, depth_tagged, depth, depthItems, hattr]
  · obtain ⟨hshape, hlists⟩ := Block.canonical_iff.mp hx
    exact Block.canonical_iff.mpr ⟨hshape, hlists⟩

theorem Setup.attemptSlideBlock_fits (s : Setup) (x : Block) :
    (s.attemptSlideBlock x).Gives (Edit.Fits .block x) := by
  unfold attemptSlideBlock
  split
  · exact .pure (Slide.bullets_fits _ _)
  · exact .pure (Slide.decorate_fits _ _ _ _)
  · refine (Attempt.gives_true _).bind fun kind _ => ?_
    split
    · exact (Container.replacement_fits _ _ _).map fun ys hys => hys
    · exact .pure (Edit.fits_unchanged _ _)
  · exact .pure (Edit.fits_unchanged _ _)

/-- **What becomes of a block fits in its place.** -/
theorem Setup.attemptBlock_fits (s : Setup) (x : Block) :
    (s.attemptBlock x).Gives (Edit.Fits .block x) := by
  unfold attemptBlock
  refine (Attempt.gives_true _).bind fun ctx _ => ?_
  split_ifs
  · exact s.attemptSlideBlock_fits x
  · exact .pure (Edit.fits_unchanged _ _)

/-! ## The editor -/

theorem Setup.editor_keepsDepth (s : Setup) : s.editor.KeepsDepth where
  inline x ctx y hy := (settle_fits _ _ (s.attemptInline_fits x) ctx y hy).depth_le
  block x ctx y hy := (settle_fits _ _ (s.attemptBlock_fits x) ctx y hy).depth_le

theorem Setup.editor_keepsCanonical (s : Setup) : s.editor.KeepsCanonical where
  inline x ctx hx y hy := (settle_fits _ _ (s.attemptInline_fits x) ctx y hy).canonical hx
  block x ctx hx y hy := (settle_fits _ _ (s.attemptBlock_fits x) ctx y hy).canonical hx

/-- A run without a configuration file, without variables and without files around it. -/
def Setup.plain : Setup := ⟨.default, .empty, ⟨fun _ => false, fun _ => .error .notFound⟩⟩

end DeckFilter
