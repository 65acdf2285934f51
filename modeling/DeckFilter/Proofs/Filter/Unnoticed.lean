import DeckFilter.Proofs.Document.MapLists
import DeckFilter.Proofs.Filter.Answers

/-!
# Changes that editors do not notice

An editor that is asked about a node looks below it only for the kind of its blocks, and for the
words in the paragraphs of an admonition. A change below the node that leaves these as they are is
kept in what the node gives way to, and makes no other difference.

* `Edit.map`, `settle_map`: answers with every node in them changed;
* `Unnoticed`: changes that leave kinds and words;
* `Setup.editInline_mapLists`, `Setup.editBlock_mapLists`: they pass through the editor of a run;
* `Setup.standing_mapLists`, `Setup.said_mapLists`: so they pass through its answers.
-/

namespace DeckFilter

/-! ## Changed answers -/

/-- An answer with every node in it changed. -/
def Edit.map {α : Type} (f : α → α) : Edit α → Edit α
  | unchanged => unchanged
  | delete => delete
  | replace nodes => replace (nodes.map f)

section Answers

variable {α : Type} (f : α → α)

theorem Edit.standing_map (x : α) (e : Edit α) :
    (e.map f).standing (f x) = (e.standing x).map f := by
  cases e <;> rfl

theorem settle_map (kind tag : String) (attempt : Attempt (Edit α)) :
    settle kind tag (Edit.map f <$> attempt) = Edit.map f <$> settle kind tag attempt := by
  rw [settle, settle, ExceptT.run_map, bind_map_left, map_bind]
  congr
  funext result
  cases result with
  | error issue => rfl
  | ok answer =>
    cases answer with
    | unchanged | delete | replace nodes => rfl

end Answers

/-! ## Changes -/

/-- The changes leave every block where it is, the words and blanks of a list with the tags of what
stands between them, and lists of nothing else. -/
structure Unnoticed (f : List Inline → List Inline) (g : List Block → List Block) : Prop where
  blocks : ∀ xs, g xs = xs.map (Block.mapLists f g)
  plainText : ∀ xs, Container.plainText (f xs) = Container.plainText xs
  leftOut : ∀ xs, Container.leftOut (f xs) = Container.leftOut xs
  words : ∀ text, f (tokenize text) = tokenize text

section Nodes

variable {f : List Inline → List Inline} {g : List Block → List Block} (h : Unnoticed f g)

include h

/-! ## Inlines -/

theorem Role.emphasize_words (format : RoleFormat) (text : String) :
    (emphasize format (tokenize text)).mapLists f g = emphasize format (tokenize text) :=
  congrArg (emphasize format) (h.words text)

theorem Role.formatCode_map (config : Config) (env : Environment) (attr : Attr) (text : String) :
    Edit.map (Inline.mapLists f g) <$> formatCode config env attr text =
      formatCode config env attr text := by
  have hwords (format : RoleFormat) : Edit.map (Inline.mapLists f g)
      (.replace [emphasize format (tokenize text)]) = .replace [emphasize format (tokenize text)] :=
    congrArg (fun x => Edit.replace [x]) (emphasize_words h format text)
  refine formatCode_cases (motive := fun a => Edit.map (Inline.mapLists f g) <$> a = a) config env
    attr text ?stays ?unknown ?words ?markup
  case stays => rfl
  case unknown =>
    intro role
    rw [map_bind]
    exact bind_congr fun _ => (map_pure _ _).trans (congrArg pure (hwords config.defaultRole))
  case words => exact fun format => (map_pure _ _).trans (congrArg pure (hwords format))
  case markup =>
    intro role format
    rw [map_bind]
    refine bind_congr fun ctx => ?_
    split_ifs <;> rfl

/-- **A change below an inline passes through the attempt at it.** -/
theorem Setup.attemptInline_mapLists (s : Setup) (x : Inline) :
    s.attemptInline (x.mapLists f g) = Edit.map (Inline.mapLists f g) <$> s.attemptInline x := by
  cases x with
  | code attr text => exact (Role.formatCode_map h s.config s.environment attr text).symm
  | image attr description target => rfl
  | span attr content =>
    change pure (Role.formatTitle s.config attr (f content)) =
      Edit.map (Inline.mapLists f g) <$> pure (Role.formatTitle s.config attr content)
    rw [map_pure, Role.formatTitle, Role.formatTitle]
    split_ifs <;> rfl
  | _ => rfl

/-! ## Blocks -/

theorem Container.flatten_changed (content : List Inline) :
    flatten (f content) = flatten content := by
  rw [flatten, flatten, h.plainText, h.leftOut]

theorem Container.paragraphs?_changed (attr : Attr) (content : List Block) :
    paragraphs? attr (g content) = (paragraphs? attr content).map (Prod.map f f) := by
  rw [h.blocks]
  unfold paragraphs?
  by_cases hclass : attr.hasClass "admonition"
  · rw [if_pos hclass, if_pos hclass]
    match content with
    | [] => rfl
    | [x] => cases x <;> rfl
    | x :: y :: rest =>
      cases x with
      | para title =>
        cases y with
        | para body => cases rest <;> rfl
        | _ => rfl
      | _ => rfl
  · rw [if_neg hclass, if_neg hclass]
    rfl

theorem Container.classify_changed (attr : Attr) (content : List Block) :
    classify attr (g content) = classify attr content := by
  unfold classify
  cases marked? attr with
  | some kind => rfl
  | none =>
    rw [paragraphs?_changed h]
    cases paragraphs? attr content with
    | none => rfl
    | some p =>
      dsimp only [Option.map_some, Prod.map]
      rw [flatten_changed h]

theorem Latex.wrap_changed (rawFormat before after : String) (content : List Block) :
    wrap rawFormat before (g content) after =
      (wrap rawFormat before content after).map (Block.mapLists f g) := by
  rw [wrap, wrap, h.blocks, List.map_append, List.map_cons]
  rfl

omit h in
theorem Listing.codeBlock_map (files : Files) (defaultLanguage : String) (classes : List String) :
    Block.mapLists f g <$> codeBlock files defaultLanguage classes =
      codeBlock files defaultLanguage classes := by
  unfold codeBlock
  dsimp only
  split_ifs
  · rfl
  · rw [map_bind]
    rfl

theorem Container.replacement_mapLists (config : Config) (files : Files) (kind : ContainerKind)
    (attr : Attr) (content : List Block) : replacement config files kind attr (g content) =
      List.map (Block.mapLists f g) <$> replacement config files kind attr content := by
  cases kind with
  | speakerNote => exact congrArg pure (Latex.wrap_changed h _ _ _ content)
  | animate => exact congrArg pure (Latex.wrap_changed h _ _ _ content)
  | latexEnvironment =>
    refine congrArg pure ?_
    rw [environment, environment]
    cases attr.classes[2]? with
    | some name => exact Latex.wrap_changed h _ _ _ content
    | none => exact h.blocks content
  | sourceInclude =>
    have hlisting := Listing.codeBlock_map (f := f) (g := g) files config.defaultCodeLanguage
      attr.classes
    change (Listing.codeBlock files config.defaultCodeLanguage attr.classes >>= fun y => pure [y]) =
      List.map (Block.mapLists f g) <$>
        (Listing.codeBlock files config.defaultCodeLanguage attr.classes >>= fun y => pure [y])
    -- a listing has nothing below it, so it may be changed on one side alone
    conv_lhs => rw [← hlisting]
    rw [bind_map_left, map_bind]
    rfl
  | languageVariant =>
    rw [replacement, replacement, languageVariant, languageVariant, paragraphs?_changed h]
    cases paragraphs? attr content with
    | none => rfl
    | some p =>
      dsimp only [Option.map_some, Prod.map]
      rw [flatten_changed h, map_bind]
      rfl

/-- **A change below a block passes through the attempt at it.** -/
theorem Setup.attemptSlideBlock_mapLists (s : Setup) (x : Block) :
    s.attemptSlideBlock (x.mapLists f g) =
      Edit.map (Block.mapLists f g) <$> s.attemptSlideBlock x := by
  cases x with
  | blockQuote content =>
    refine congrArg pure ?_
    rw [Slide.bullets, Slide.bullets, h.blocks]
    split_ifs <;> rfl
  | header level attr content => rfl
  | div attr content =>
    change s.attemptSlideBlock (.div attr (g content)) = _
    rw [attemptSlideBlock, attemptSlideBlock, Container.classify_changed h, map_bind]
    refine bind_congr fun kind => ?_
    cases kind with
    | none => rfl
    | some kind =>
      dsimp only
      rw [Container.replacement_mapLists h, Functor.map_map, Functor.map_map]
      rfl
  | _ => rfl

theorem Setup.attemptBlock_mapLists (s : Setup) (x : Block) :
    s.attemptBlock (x.mapLists f g) = Edit.map (Block.mapLists f g) <$> s.attemptBlock x := by
  rw [attemptBlock, attemptBlock, map_bind]
  refine bind_congr fun ctx => ?_
  split_ifs
  · exact s.attemptSlideBlock_mapLists h x
  · rfl

/-! ## The editor -/

/-- **A change below an inline passes through the editor of a run.** -/
theorem Setup.editInline_mapLists (s : Setup) (x : Inline) :
    s.editInline (x.mapLists f g) = Edit.map (Inline.mapLists f g) <$> s.editInline x := by
  rw [editInline, editInline, Inline.tag_mapLists, s.attemptInline_mapLists h, settle_map]

/-- **A change below a block passes through the editor of a run.** -/
theorem Setup.editBlock_mapLists (s : Setup) (x : Block) :
    s.editBlock (x.mapLists f g) = Edit.map (Block.mapLists f g) <$> s.editBlock x := by
  rw [editBlock, editBlock, Block.tag_mapLists, s.attemptBlock_mapLists h, settle_map]

/-- **A change below a node is kept in what stands in its place.** -/
theorem Setup.standing_mapLists (s : Setup) (format : String) (x : Node) :
    (s.answers format).standing (x.mapLists f g) =
      ((s.answers format).standing x).map (Node.mapLists f g) := by
  cases x with
  | inline x =>
    have hedit : ((s.editInline (x.mapLists f g)).run (.start format)).1 =
        ((s.editInline x).run (.start format)).1.map (Inline.mapLists f g) :=
      congrArg (fun edit => (edit.run (.start format)).1) (s.editInline_mapLists h x)
    change (Edit.standing (x.mapLists f g) _).map Node.inline = _
    rw [hedit, Edit.standing_map, Answers.standing, List.map_map, List.map_map]
    rfl
  | block x =>
    have hedit : ((s.editBlock (x.mapLists f g)).run (.start format)).1 =
        ((s.editBlock x).run (.start format)).1.map (Block.mapLists f g) :=
      congrArg (fun edit => (edit.run (.start format)).1) (s.editBlock_mapLists h x)
    change (Edit.standing (x.mapLists f g) _).map Node.block = _
    rw [hedit, Edit.standing_map, Answers.standing, List.map_map, List.map_map]
    rfl

/-- **A change below a node makes no difference to what is reported about it.** -/
theorem Setup.said_mapLists (s : Setup) (format : String) (x : Node) :
    s.said format (x.mapLists f g) = s.said format x := by
  cases x with
  | inline x =>
    exact congrArg (fun edit => (edit.run (.start format)).2) (s.editInline_mapLists h x)
  | block x =>
    exact congrArg (fun edit => (edit.run (.start format)).2) (s.editBlock_mapLists h x)

end Nodes

end DeckFilter
