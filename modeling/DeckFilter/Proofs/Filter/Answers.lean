import DeckFilter.Proofs.Filter.Adding
import DeckFilter.Proofs.Filter.Edits
import DeckFilter.Proofs.Walk.Steady

/-!
# The answers of a run

The editor of a run is steady: in an output format, what becomes of a node depends on the node
alone. What is reported about a node depends on nothing else either.

* `Setup.answers`, `Setup.said`: what stands in place of a node, and what is reported about it;
* `Setup.inline_image`, … `Setup.block_div`: what stands in place of nodes of each kind;
* `Setup.inline_eq_singleton`: every inline gives way to one inline;
* `Setup.frame?`, `Setup.containerAfter_frame`: the containers that keep their content.
-/

namespace DeckFilter

namespace Setup

variable (s : Setup) (format : String)

/-- What stands in place of every node in an output format. -/
def answers : Answers where
  inline x := ((s.editInline x).run (.start format)).1.standing x
  block x := ((s.editBlock x).run (.start format)).1.standing x

/-- What is reported about a node in an output format. -/
def said : Node → Context
  | .inline x => ((s.editInline x).run (.start format)).2
  | .block x => ((s.editBlock x).run (.start format)).2

/-- **The editor of a run is steady.** -/
theorem editor_steady : s.editor.Steady (s.answers format)
    (fun ctx x => ctx.append (s.said format x)) (fun ctx => ctx.format = format) where
  inline x ctx h := by
    have hx : (s.editor.inline x).run ctx = _ := s.editInline_adds x ctx
    rw [hx, h]
    exact ⟨rfl, rfl⟩
  block x ctx h := by
    have hx : (s.editor.block x).run ctx = _ := s.editBlock_adds x ctx
    rw [hx, h]
    exact ⟨rfl, rfl⟩
  ok ctx x h := h

end Setup

/-! ## What stands in place of nodes -/

@[elab_as_elim]
theorem Inline.edit_cases {motive : Inline → Prop} (code : ∀ attr text, motive (.code attr text))
    (image : ∀ attr description target, motive (.image attr description target))
    (span : ∀ attr content, motive (.span attr content))
    (stays : ∀ x : Inline, (∀ attr text, x ≠ .code attr text) →
      (∀ attr description target, x ≠ .image attr description target) →
      (∀ attr content, x ≠ .span attr content) → motive x) (x : Inline) : motive x := by
  cases x with
  | code attr text => exact code attr text
  | image attr description target => exact image attr description target
  | span attr content => exact span attr content
  | _ => exact stays _ nofun nofun nofun

@[elab_as_elim]
theorem Block.edit_cases {motive : Block → Prop}
    (blockQuote : ∀ content, motive (.blockQuote content))
    (header : ∀ level attr content, motive (.header level attr content))
    (div : ∀ attr content, motive (.div attr content))
    (stays : ∀ x : Block, (∀ content, x ≠ .blockQuote content) →
      (∀ level attr content, x ≠ .header level attr content) →
      (∀ attr content, x ≠ .div attr content) → motive x) (x : Block) : motive x := by
  cases x with
  | blockQuote content => exact blockQuote content
  | header level attr content => exact header level attr content
  | div attr content => exact div attr content
  | _ => exact stays _ nofun nofun nofun

/-- What stands in place of a node after its attempt; a node with an issue stays. -/
def Attempt.standing {α : Type} (x : α) : Except Issue (Edit α) → List α
  | .ok answer => answer.standing x
  | .error _ => [x]

theorem settle_standing {α : Type} (kind tag : String) (attempt : Attempt (Edit α)) (x : α)
    (ctx : Context) : ((settle kind tag attempt).run ctx).1.standing x =
      Attempt.standing x (attempt.run.run ctx).1 := by
  rw [settle, StateT.run_bind]
  generalize attempt.run.run ctx = p
  obtain ⟨result, ctx'⟩ := p
  cases result with
  | error issue => rfl
  | ok answer =>
    cases answer with
    | unchanged | delete | replace nodes => rfl

theorem settle_diagnostics {α : Type} (kind tag : String) (attempt : Attempt (Edit α))
    (ctx : Context) : ((settle kind tag attempt).run ctx).2.diagnostics =
      (attempt.run.run ctx).2.diagnostics ++
        match (attempt.run.run ctx).1 with
        | .ok _ => []
        | .error issue => [issue.diagnostic] := by
  rw [settle, StateT.run_bind]
  generalize attempt.run.run ctx = p
  obtain ⟨result, ctx'⟩ := p
  cases result with
  | error issue => rfl
  | ok answer =>
    cases answer with
    | unchanged | delete | replace nodes => exact (List.append_nil _).symm

theorem Attempt.run_get_bind {α : Type} (f : Context → Attempt α) (ctx : Context) :
    (get >>= f : Attempt α).run.run ctx = (f ctx).run.run ctx := rfl

theorem Attempt.run_lift_bind {α β : Type} (a : StateM Context α) (f : α → Attempt β)
    (ctx : Context) : ((liftM a : Attempt α) >>= f).run.run ctx =
      (f (a.run ctx).1).run.run (a.run ctx).2 := rfl

theorem Attempt.run_map {α β : Type} (f : α → β) (a : Attempt α) (ctx : Context) :
    (f <$> a).run.run ctx = ((a.run.run ctx).1.map f, (a.run.run ctx).2) := by
  rw [map_eq_pure_bind, ExceptT.run_bind, StateT.run_bind]
  generalize a.run.run ctx = p
  obtain ⟨result, ctx'⟩ := p
  cases result with
  | error issue => rfl
  | ok x => rfl

theorem Listing.codeBlock_gives (files : Files) (defaultLanguage : String)
    (classes : List String) : (codeBlock files defaultLanguage classes).Gives fun y =>
      ∃ (attr : Attr) (text : String), y = .codeBlock attr text := by
  unfold codeBlock
  dsimp only
  split_ifs
  · exact @Attempt.Gives.bind _ _ (fun _ => False) _ _ _ (.throw _) fun _ h => h.elim
  · exact (Attempt.gives_true _).bind fun text _ => .pure ⟨_, text, rfl⟩

/-- The kind of a division. -/
def Container.kind? (attr : Attr) (content : List Block) : Option ContainerKind :=
  match marked? attr with
  | some kind => some kind
  | none =>
    match paragraphs? attr content with
    | none => none
    | some (title, _) => if isLanguageVariant (plainText title) then some .languageVariant else none

theorem Container.classify_run (attr : Attr) (content : List Block) (ctx : Context) :
    ((classify attr content).run ctx).1 = kind? attr content := by
  rw [classify, kind?]
  cases marked? attr with
  | some kind => rfl
  | none =>
    cases paragraphs? attr content with
    | none => rfl
    | some p => rfl

namespace Setup

variable (s : Setup) (format : String)

theorem inline_eq (x : Inline) : (s.answers format).inline x =
    Attempt.standing x ((s.attemptInline x).run.run (.start format)).1 :=
  settle_standing _ _ _ x _

theorem block_eq (x : Block) : (s.answers format).block x =
    Attempt.standing x ((s.attemptBlock x).run.run (.start format)).1 :=
  settle_standing _ _ _ x _

theorem inline_stays {x : Inline} (hcode : ∀ attr text, x ≠ .code attr text)
    (himage : ∀ attr description target, x ≠ .image attr description target)
    (hspan : ∀ attr content, x ≠ .span attr content) : (s.answers format).inline x = [x] := by
  rw [inline_eq]
  cases x with
  | code attr text => exact absurd rfl (hcode attr text)
  | image attr description target => exact absurd rfl (himage attr description target)
  | span attr content => exact absurd rfl (hspan attr content)
  | _ => rfl

theorem inline_image (attr : Attr) (description : List Inline) (target : Target) :
    (s.answers format).inline (.image attr description target) =
      [.image attr description (s.locate target)] := rfl

theorem inline_span (attr : Attr) (content : List Inline) :
    (s.answers format).inline (.span attr content) =
      if attr.hasClass "title-ref" then [Role.applyDefault s.config content]
      else [.span attr content] := by
  rw [inline_eq]
  change (Role.formatTitle s.config attr content).standing _ = _
  rw [Role.formatTitle]
  split_ifs <;> rfl

/-- What stands in place of a code inline. -/
def codeAfter (attr : Attr) (text : String) : Inline :=
  match Role.roleOf? attr with
  | none => .code attr text
  | some role =>
    match s.config.role? role with
    | none => Role.applyDefault s.config (tokenize text)
    | some f =>
      if f.isRaw then
        if format = s.config.slideFormat then
          .raw s.config.rawFormat ((Role.render s.config s.environment f text).getD "")
        else .code attr text
      else Role.emphasize f (tokenize text)

theorem inline_code (attr : Attr) (text : String) :
    (s.answers format).inline (.code attr text) = [s.codeAfter format attr text] := by
  rw [inline_eq, attemptInline, codeAfter]
  cases hrole : Role.roleOf? attr with
  | none =>
    rw [Role.formatCode_of_none hrole]
    rfl
  | some role =>
    dsimp only
    cases hformat : s.config.role? role with
    | none =>
      rw [Role.formatCode_of_unknown hrole hformat]
      rfl
    | some f =>
      dsimp only
      by_cases hraw : f.isRaw
      · rw [Role.formatCode_run_of_isRaw hrole hformat hraw, if_pos hraw]
        by_cases hslide : format = s.config.slideFormat
        · rw [if_pos hslide, if_pos (show (Context.start format).format = _ from hslide)]
          rfl
        · rw [if_neg hslide, if_neg (show (Context.start format).format ≠ _ from hslide)]
          rfl
      · rw [Role.formatCode_of_not_isRaw hrole hformat hraw, if_neg hraw]
        rfl

theorem codeAfter_of_isRaw {attr : Attr} {role : String} {f : RoleFormat}
    (hrole : Role.roleOf? attr = some role) (hformat : s.config.role? role = some f)
    (hraw : f.isRaw) (text : String) : s.codeAfter format attr text =
      if format = s.config.slideFormat then
        .raw s.config.rawFormat ((Role.render s.config s.environment f text).getD "")
      else .code attr text := by
  rw [codeAfter, hrole]
  dsimp only
  rw [hformat]
  exact if_pos hraw

theorem codeAfter_eq_or (attr : Attr) (text : String) :
    s.codeAfter format attr text = .code attr text ∨
      (format = s.config.slideFormat ∧
        ∃ raw, s.codeAfter format attr text = .raw s.config.rawFormat raw) ∨
      ∃ f, s.codeAfter format attr text = Role.emphasize f (tokenize text) := by
  rw [codeAfter]
  cases Role.roleOf? attr with
  | none => exact Or.inl rfl
  | some role =>
    dsimp only
    cases s.config.role? role with
    | none => exact Or.inr (Or.inr ⟨s.config.defaultRole, rfl⟩)
    | some f =>
      dsimp only
      split_ifs with hraw hslide
      · exact Or.inr (Or.inl ⟨hslide, _, rfl⟩)
      · exact Or.inl rfl
      · exact Or.inr (Or.inr ⟨f, rfl⟩)

/-- What stands in place of an inline. -/
def inlineAfter : Inline → Inline
  | .code attr text => s.codeAfter format attr text
  | .image attr description target => .image attr description (s.locate target)
  | .span attr content =>
    if attr.hasClass "title-ref" then Role.applyDefault s.config content else .span attr content
  | x => x

/-- **Every inline gives way to one inline.** -/
theorem inline_eq_singleton (x : Inline) :
    (s.answers format).inline x = [s.inlineAfter format x] := by
  cases x using Inline.edit_cases with
  | code attr text => exact s.inline_code format attr text
  | image attr description target => rfl
  | span attr content =>
    rw [inline_span, inlineAfter]
    split_ifs <;> rfl
  | stays x hcode himage hspan =>
    rw [s.inline_stays format hcode himage hspan]
    cases x with
    | code attr text => exact absurd rfl (hcode attr text)
    | image attr description target => exact absurd rfl (himage attr description target)
    | span attr content => exact absurd rfl (hspan attr content)
    | _ => rfl

theorem block_of_ne (h : format ≠ s.config.slideFormat) (x : Block) :
    (s.answers format).block x = [x] := by
  rw [block_eq, attemptBlock, Attempt.run_get_bind,
    if_neg (show ¬(Context.start format).format = _ from h)]
  rfl

theorem block_eq_slide (x : Block) : (s.answers s.config.slideFormat).block x =
    Attempt.standing x ((s.attemptSlideBlock x).run.run (.start s.config.slideFormat)).1 := by
  rw [block_eq, attemptBlock, Attempt.run_get_bind,
    if_pos (show (Context.start s.config.slideFormat).format = s.config.slideFormat from rfl)]

theorem block_stays {x : Block} (hquote : ∀ content, x ≠ .blockQuote content)
    (hheader : ∀ level attr content, x ≠ .header level attr content)
    (hdiv : ∀ attr content, x ≠ .div attr content) :
    (s.answers s.config.slideFormat).block x = [x] := by
  rw [block_eq_slide]
  cases x with
  | blockQuote content => exact absurd rfl (hquote content)
  | header level attr content => exact absurd rfl (hheader level attr content)
  | div attr content => exact absurd rfl (hdiv attr content)
  | _ => rfl

theorem block_blockQuote (content : List Block) :
    (s.answers s.config.slideFormat).block (.blockQuote content) =
      if s.config.bulletPointAnimation then [.blockQuote content] else content := by
  rw [block_eq_slide]
  change (Slide.bullets s.config.bulletPointAnimation content).standing _ = _
  rw [Slide.bullets]
  split_ifs <;> rfl

theorem block_header (level : UInt64) (attr : Attr) (content : List Inline) :
    (s.answers s.config.slideFormat).block (.header level attr content) =
      [.header level (Slide.decorate s.config.slideDecorators attr) content] := by
  rw [block_eq_slide]
  rfl

/-- What stands in place of a container; one with an issue stays. -/
def containerAfter (kind : ContainerKind) (attr : Attr) (content : List Block) : List Block :=
  match ((Container.replacement s.config s.files kind attr content).run.run
    (.start s.config.slideFormat)).1 with
  | .ok nodes => nodes
  | .error _ => [.div attr content]

/-- What comes before and after the content of a container that keeps it. -/
def frame? (attr : Attr) : ContainerKind → Option (List Block × List Block)
  | .speakerNote => some
    ([.raw s.config.rawFormat "\\note\x7b"], [.raw s.config.rawFormat "\x7d"])
  | .animate => some
    ([.raw s.config.rawFormat (Latex.opening "visibleenv" ++
      Overlay.specification attr.classes[2]?)],
      [.raw s.config.rawFormat (Latex.closing "visibleenv")])
  | .latexEnvironment => some
    ((attr.classes[2]?.map fun name => .raw s.config.rawFormat (Latex.opening name)).toList,
      (attr.classes[2]?.map fun name => .raw s.config.rawFormat (Latex.closing name)).toList)
  | .sourceInclude | .languageVariant => none

theorem block_div (attr : Attr) (content : List Block) :
    (s.answers s.config.slideFormat).block (.div attr content) =
      match Container.kind? attr content with
      | some kind => s.containerAfter kind attr content
      | none => [.div attr content] := by
  have hkind := Container.classify_run attr content (.start s.config.slideFormat)
  have hformat : ((Container.classify attr content).run (.start s.config.slideFormat)).2.format =
    s.config.slideFormat := (Container.classify_adds attr content).format _
  rw [block_eq_slide]
  change Attempt.standing _ (((liftM (Container.classify attr content) : Attempt _) >>=
    _).run.run _).1 = _
  rw [Attempt.run_lift_bind, hkind]
  -- what classification has recorded makes no difference to the replacement: it only adds
  generalize ((Container.classify attr content).run (.start s.config.slideFormat)).2 = ctx
    at hformat ⊢
  cases Container.kind? attr content with
  | none => rfl
  | some kind =>
    have hadds : (Container.replacement s.config s.files kind attr content).run.run ctx = _ :=
      Container.replacement_adds s.config s.files kind attr content ctx
    dsimp only
    rw [Attempt.run_map, hadds, hformat, containerAfter]
    generalize (Container.replacement s.config s.files kind attr content).run.run
      (.start s.config.slideFormat) = p
    obtain ⟨result, ctx'⟩ := p
    cases result with
    | error issue => rfl
    | ok nodes => rfl

theorem containerAfter_frame {attr : Attr} {kind : ContainerKind} {before after : List Block}
    (h : s.frame? attr kind = some (before, after)) (content : List Block) :
    s.containerAfter kind attr content = before ++ content ++ after := by
  cases kind with
  | speakerNote | animate =>
    obtain ⟨rfl, rfl⟩ := Prod.mk.inj (Option.some.inj h)
    rfl
  | latexEnvironment =>
    obtain ⟨rfl, rfl⟩ := Prod.mk.inj (Option.some.inj h)
    change Container.environment s.config.rawFormat attr.classes content = _
    rw [Container.environment]
    cases attr.classes[2]? with
    | some name => rfl
    | none => exact (List.append_nil _).symm
  | sourceInclude | languageVariant => cases h

theorem frame_raw {attr : Attr} {kind : ContainerKind} {before after : List Block}
    (h : s.frame? attr kind = some (before, after)) :
    ∀ y ∈ before ++ after, ∃ text, y = .raw s.config.rawFormat text := by
  cases kind with
  | speakerNote | animate =>
    obtain ⟨rfl, rfl⟩ := Prod.mk.inj (Option.some.inj h)
    simp
  | latexEnvironment =>
    obtain ⟨rfl, rfl⟩ := Prod.mk.inj (Option.some.inj h)
    cases attr.classes[2]? with
    | some name => simp
    | none => simp
  | sourceInclude | languageVariant => cases h

theorem containerAfter_sourceInclude (attr : Attr) :
    (∀ content, s.containerAfter .sourceInclude attr content = [.div attr content]) ∨
      ∃ (a : Attr) (text : String),
        ∀ content, s.containerAfter .sourceInclude attr content = [.codeBlock a text] := by
  have hgives := Listing.codeBlock_gives s.files s.config.defaultCodeLanguage attr.classes
    (.start s.config.slideFormat)
  have hrun : ∀ content, ((Container.replacement s.config s.files .sourceInclude attr
      content).run.run (.start s.config.slideFormat)).1 =
      (((Listing.codeBlock s.files s.config.defaultCodeLanguage attr.classes).run.run
        (.start s.config.slideFormat)).1.map fun listing => [listing]) := by
    intro content
    exact congrArg Prod.fst (Attempt.run_map (fun listing => [listing]) _ _)
  simp only [containerAfter, hrun]
  cases hlisting : ((Listing.codeBlock s.files s.config.defaultCodeLanguage
      attr.classes).run.run (.start s.config.slideFormat)).1 with
  | error issue => exact Or.inl fun content => rfl
  | ok listing =>
    obtain ⟨a, text, rfl⟩ := hgives listing hlisting
    exact Or.inr ⟨a, text, fun content => rfl⟩

theorem containerAfter_languageVariant (attr : Attr) (content : List Block) :
    s.containerAfter .languageVariant attr content =
      match Container.paragraphs? attr content with
      | none => [.div attr content]
      | some (_, body) => [.raw s.config.rawFormat
          (Container.subtitle s.config.boxColor (Container.plainText body))] := by
  rw [containerAfter, Container.replacement, Container.languageVariant]
  cases Container.paragraphs? attr content with
  | none => rfl
  | some p => rfl

end Setup

end DeckFilter
