import DeckFilter.Proofs.Filter.Answers
import DeckFilter.Proofs.Listing.Arguments

/-!
# Failures of single nodes

An attempt at a node fails for three reasons alone: a role of raw markup in a format other than that
of slides, a listing on a slide that names nothing, and one that names a file that is no text. It
has recorded nothing by then, so the node stays, and one diagnostic is added.

* `Attr.IsListing`, `Container.kind?_eq_sourceInclude`: the classes of listings;
* `Listing.codeBlock_eq_map`, `Listing.codeBlock_eq_error`: when a listing fails;
* `Setup.Fails`, `Setup.attemptInline_eq_error`, `Setup.attemptBlock_eq_error`: the reasons, and
  that there are no others;
* `failures_are_isolated`: what becomes of nodes with issues.
-/

namespace DeckFilter

/-! ## Attempts -/

section Attempts

variable {α β : Type} {ctx ctx' : Context} {issue : Issue}

theorem Attempt.map_eq_error {f : α → β} {a : Attempt α} :
    (f <$> a).run.run ctx = (.error issue, ctx') ↔ a.run.run ctx = (.error issue, ctx') := by
  rw [Attempt.run_map]
  obtain ⟨result, left⟩ := a.run.run ctx
  cases result with
  | error i =>
    constructor
    · intro h
      cases h
      rfl
    · intro h
      cases h
      rfl
  | ok x =>
    refine iff_of_false ?_ ?_
    · intro h
      cases h
    · intro h
      cases h

theorem Attempt.ne_error {a : Attempt α} (h : ∃ x, (a.run.run ctx).1 = .ok x) :
    a.run.run ctx ≠ (.error issue, ctx') := by
  intro he
  obtain ⟨x, hx⟩ := h
  rw [he] at hx
  cases hx

/-- **A node whose attempt fails stays**, and its diagnostic comes after those that are there. -/
theorem settle_error (kind tag : String) {attempt : Attempt (Edit α)}
    (h : attempt.run.run ctx = (.error issue, ctx')) :
    ((settle kind tag attempt).run ctx).1 = .unchanged ∧
      ((settle kind tag attempt).run ctx).2.diagnostics =
        ctx'.diagnostics ++ [issue.diagnostic] := by
  refine ⟨?_, ?_⟩
  · rw [settle, StateT.run_bind, h]
    rfl
  · rw [settle_diagnostics, h]

end Attempts

/-! ## Kinds of divisions -/

/-- The classes of a container that is a listing: the marker of notes for the speaker, which is
looked for first, is not among them. -/
structure Attr.IsListing (attr : Attr) : Prop where
  container : attr.hasClass "container"
  marker : attr.hasClass "source_include"
  no_note : ¬attr.hasClass "speakernote"

namespace Container

variable {attr : Attr} {content : List Block}

theorem marked?_eq_sourceInclude : marked? attr = some .sourceInclude ↔ attr.IsListing := by
  have hlisting : attr.IsListing ↔ attr.hasClass "container" = true ∧
      attr.hasClass "source_include" = true ∧ attr.hasClass "speakernote" = false :=
    ⟨fun h => ⟨h.container, h.marker, Bool.eq_false_iff.mpr h.no_note⟩,
      fun h => ⟨h.1, h.2.1, Bool.eq_false_iff.mp h.2.2⟩⟩
  rw [hlisting, marked?, markers]
  simp only [List.find?]
  cases attr.hasClass "container" <;> cases attr.hasClass "speakernote" <;>
    cases attr.hasClass "source_include" <;> cases attr.hasClass "animate" <;>
    cases attr.hasClass "latex_environment" <;> simp

theorem marked?_ne_languageVariant : marked? attr ≠ some .languageVariant := by
  rw [marked?]
  split_ifs
  · intro hkind
    obtain ⟨marker, hmarker, hkind⟩ := Option.map_eq_some_iff.mp hkind
    have hnone : ∀ m ∈ markers, m.2 ≠ .languageVariant := by decide
    exact hnone marker (List.mem_of_find?_eq_some hmarker) hkind
  · intro h
    cases h

/-- **The kind of a division is that of a listing** if its classes say so, whatever its content
is. -/
theorem kind?_eq_sourceInclude : kind? attr content = some .sourceInclude ↔ attr.IsListing := by
  rw [← marked?_eq_sourceInclude, kind?]
  cases marked? attr with
  | some kind => rfl
  | none =>
    cases paragraphs? attr content with
    | none => rfl
    | some p =>
      dsimp only
      split_ifs <;> simp

theorem classify_of_isListing (h : attr.IsListing) (content : List Block) :
    classify attr content = pure (some .sourceInclude) := by
  rw [classify, marked?_eq_sourceInclude.mpr h]

theorem paragraphs?_of_kind? (h : kind? attr content = some .languageVariant) :
    ∃ title body, paragraphs? attr content = some (title, body) := by
  rw [kind?] at h
  cases hmarked : marked? attr with
  | some kind =>
    rw [hmarked] at h
    exact absurd (hmarked.trans h) marked?_ne_languageVariant
  | none =>
    rw [hmarked] at h
    cases hparagraphs : paragraphs? attr content with
    | none =>
      rw [hparagraphs] at h
      cases h
    | some p => exact ⟨p.1, p.2, rfl⟩

theorem languageVariant_ok (h : kind? attr content = some .languageVariant) (config : Config)
    (ctx : Context) :
    ∃ nodes, ((languageVariant config attr content).run.run ctx).1 = .ok nodes := by
  obtain ⟨title, body, hparagraphs⟩ := paragraphs?_of_kind? h
  rw [languageVariant, hparagraphs]
  exact ⟨_, rfl⟩

end Container

/-! ## Listings -/

namespace Listing

variable {files : Files} {ctx ctx' : Context} {issue : Issue}

theorem argumentsOf_eq_nil {classes : List String} : argumentsOf classes = [] ↔
    ∀ c ∈ classes, c = "container" ∨ c = "source_include" := by
  rw [argumentsOf, List.filter_eq_nil_iff]
  refine forall₂_congr fun c _ => ?_
  rw [Bool.and_eq_true, bne_iff_ne, bne_iff_ne, not_and_or, not_not, not_not]

theorem text_eq_error {l : Listing} :
    (l.text files).run.run ctx = (.error issue, ctx') ↔ ctx' = ctx ∧ ∃ name e,
      l.file = some name ∧ files.readText name = .error e ∧
        issue = .sourceUnreadable name e.message := by
  rw [text]
  cases l.file with
  | none =>
    refine iff_of_false (Attempt.ne_error ⟨_, rfl⟩) ?_
    rintro ⟨-, name, e, hname, -⟩
    cases hname
  | some name =>
    dsimp only
    cases hread : files.readText name with
    | ok contents =>
      refine iff_of_false (Attempt.ne_error ⟨_, rfl⟩) ?_
      rintro ⟨-, name', e, hname, he, -⟩
      obtain rfl := Option.some.inj hname
      rw [hread] at he
      cases he
    | error e =>
      constructor
      · intro h
        cases h
        exact ⟨rfl, name, e, rfl, hread, rfl⟩
      · rintro ⟨rfl, name', e', hname, he, rfl⟩
        obtain rfl := Option.some.inj hname
        obtain rfl := Except.error.inj (hread.symm.trans he)
        rfl

theorem codeBlock_eq_map {classes : List String} (h : argumentsOf classes ≠ [])
    (files : Files) (defaultLanguage : String) : codeBlock files defaultLanguage classes =
      (fun text => .codeBlock
        (.ofClasses [(parse files (argumentsOf classes)).language defaultLanguage]) text) <$>
        (parse files (argumentsOf classes)).text files := by
  rw [codeBlock]
  generalize argumentsOf classes = arguments at h ⊢
  cases arguments with
  | nil => exact absurd rfl h
  | cons a arguments =>
    rw [map_eq_pure_bind]
    rfl

/-- **A listing fails** if it has no arguments, or if its file is no text. -/
theorem codeBlock_eq_error {defaultLanguage : String} {classes : List String} :
    (codeBlock files defaultLanguage classes).run.run ctx = (.error issue, ctx') ↔ ctx' = ctx ∧
      ((argumentsOf classes = [] ∧
          issue = .malformedNode "Div" "source_include container names no file") ∨
        ∃ name e, ((argumentsOf classes).filter files.isFile).getLast? = some name ∧
          files.readText name = .error e ∧ issue = .sourceUnreadable name e.message) := by
  by_cases hnone : argumentsOf classes = []
  · rw [codeBlock, hnone]
    constructor
    · intro h
      cases h
      exact ⟨rfl, Or.inl ⟨rfl, rfl⟩⟩
    · rintro ⟨rfl, ⟨-, rfl⟩ | ⟨name, e, hname, -⟩⟩
      · rfl
      · cases hname
  · rw [codeBlock_eq_map hnone, Attempt.map_eq_error, text_eq_error, parse_file,
      or_iff_right fun h => hnone h.1]

end Listing

/-! ## Nodes -/

namespace Setup

variable (s : Setup)

/-- The issues with which the attempt at a node fails in an output format. -/
inductive Fails (s : Setup) (format : String) : Node → Issue → Prop
  | rawRole {attr : Attr} {text role : String} {f : RoleFormat}
      (hrole : attr.HasRole role) (hf : s.config.role? role = some f) (hraw : f.isRaw)
      (hformat : format ≠ s.config.slideFormat) :
      Fails s format (.inline (.code attr text))
        (.unsupportedRole role format s.config.rawFormat)
  | noArguments {attr : Attr} {content : List Block} (hformat : format = s.config.slideFormat)
      (hlisting : attr.IsListing)
      (hclasses : ∀ c ∈ attr.classes, c = "container" ∨ c = "source_include") :
      Fails s format (.block (.div attr content))
        (.malformedNode "Div" "source_include container names no file")
  | unreadable {attr : Attr} {content : List Block} {name : String} {e : FileError}
      (hformat : format = s.config.slideFormat) (hlisting : attr.IsListing)
      (hname : ((Listing.argumentsOf attr.classes).filter s.files.isFile).getLast? = some name)
      (hread : s.files.readText name = .error e) :
      Fails s format (.block (.div attr content)) (.sourceUnreadable name e.message)

variable {s} {ctx ctx' : Context} {issue : Issue}

/-- **An attempt at an inline fails for no other reason.** -/
theorem attemptInline_eq_error {x : Inline} :
    (s.attemptInline x).run.run ctx = (.error issue, ctx') ↔
      ctx' = ctx ∧ s.Fails ctx.format (.inline x) issue := by
  cases x with
  | code attr text =>
    rw [attemptInline, Role.formatCode_eq_error]
    refine and_congr_right fun _ => ⟨?_, ?_⟩
    · rintro ⟨role, f, hrole, hf, hraw, hformat, rfl⟩
      exact .rawRole (Attr.hasRole_iff.mpr hrole) hf hraw hformat
    · rintro ⟨hrole, hf, hraw, hformat⟩
      exact ⟨_, _, Attr.hasRole_iff.mp hrole, hf, hraw, hformat, rfl⟩
  | _ =>
    refine iff_of_false (Attempt.ne_error ⟨_, rfl⟩) ?_
    rintro ⟨-, h⟩
    cases h

theorem attemptDiv_ok {attr : Attr} {content : List Block} (h : ¬attr.IsListing) :
    ∃ edit, ((s.attemptSlideBlock (.div attr content)).run.run ctx).1 = .ok edit := by
  have hkind := Container.classify_run attr content ctx
  rw [← @Container.kind?_eq_sourceInclude attr content] at h
  change ∃ edit, (((liftM (Container.classify attr content) : Attempt _) >>= _).run.run ctx).1 =
    .ok edit
  rw [Attempt.run_lift_bind, hkind]
  cases hdiv : Container.kind? attr content with
  | none => exact ⟨_, rfl⟩
  | some kind =>
    dsimp only
    rw [Attempt.run_map]
    cases kind with
    | speakerNote | animate | latexEnvironment => exact ⟨_, rfl⟩
    | sourceInclude => exact absurd hdiv h
    | languageVariant =>
      obtain ⟨nodes, hnodes⟩ := Container.languageVariant_ok hdiv s.config
        ((Container.classify attr content).run ctx).2
      rw [Container.replacement, hnodes]
      exact ⟨_, rfl⟩

theorem attemptDiv_eq_error {attr : Attr} {content : List Block} (h : attr.IsListing) :
    (s.attemptSlideBlock (.div attr content)).run.run ctx = (.error issue, ctx') ↔
      (Listing.codeBlock s.files s.config.defaultCodeLanguage attr.classes).run.run ctx =
        (.error issue, ctx') := by
  rw [attemptSlideBlock, Container.classify_of_isListing h]
  change (Edit.replace <$> Container.replacement s.config s.files .sourceInclude attr
    content).run.run ctx = _ ↔ _
  rw [Attempt.map_eq_error, Container.replacement]
  refine Iff.trans ?_ (Attempt.map_eq_error (f := fun listing => [listing]))
  rw [map_eq_pure_bind]

/-- **An attempt at a block fails for no other reason.** -/
theorem attemptBlock_eq_error {x : Block} :
    (s.attemptBlock x).run.run ctx = (.error issue, ctx') ↔
      ctx' = ctx ∧ s.Fails ctx.format (.block x) issue := by
  rw [attemptBlock, Attempt.run_get_bind]
  by_cases hslide : ctx.format = s.config.slideFormat
  · rw [if_pos hslide]
    cases x with
    | div attr content =>
      by_cases hlisting : attr.IsListing
      · rw [attemptDiv_eq_error hlisting, Listing.codeBlock_eq_error, Listing.argumentsOf_eq_nil]
        refine and_congr_right fun _ => ⟨?_, ?_⟩
        · rintro (⟨hclasses, rfl⟩ | ⟨name, e, hname, hread, rfl⟩)
          · exact .noArguments hslide hlisting hclasses
          · exact .unreadable hslide hlisting hname hread
        · intro h
          cases h with
          | noArguments hformat hlisting hclasses => exact Or.inl ⟨hclasses, rfl⟩
          | unreadable hformat hlisting hname hread => exact Or.inr ⟨_, _, hname, hread, rfl⟩
      · obtain ⟨edit, hedit⟩ := @attemptDiv_ok s ctx attr content hlisting
        constructor
        · intro h
          rw [h] at hedit
          cases hedit
        · rintro ⟨-, h⟩
          cases h with
          | noArguments hformat h => exact absurd h hlisting
          | unreadable hformat h => exact absurd h hlisting
    | _ =>
      refine iff_of_false (Attempt.ne_error ⟨_, rfl⟩) ?_
      rintro ⟨-, h⟩
      cases h
  · rw [if_neg hslide]
    refine iff_of_false (Attempt.ne_error ⟨_, rfl⟩) ?_
    rintro ⟨-, h⟩
    cases h with
    | noArguments hformat => exact absurd hformat hslide
    | unreadable hformat => exact absurd hformat hslide

end Setup

/-- **Attempts fail for three reasons alone, and failures are isolated.** Whatever was reported
before, the attempt at a node fails with an issue just if `Setup.Fails` says so; the node then
stays, and the diagnostic of the issue is all that is added. Neither a division that is a language
variant nor its replacement fails, and of the code inlines that do not fail only those without a
role stay. -/
theorem failures_are_isolated (s : Setup) (ctx : Context) :
    (∀ x issue, (∃ ctx', (s.attemptInline x).run.run ctx = (.error issue, ctx')) ↔
      s.Fails ctx.format (.inline x) issue) ∧
    (∀ x issue, (∃ ctx', (s.attemptBlock x).run.run ctx = (.error issue, ctx')) ↔
      s.Fails ctx.format (.block x) issue) ∧
    (∀ x issue, s.Fails ctx.format (.inline x) issue →
      ((s.editInline x).run ctx).1 = .unchanged ∧
      ((s.editInline x).run ctx).2.diagnostics = ctx.diagnostics ++ [issue.diagnostic]) ∧
    (∀ x issue, s.Fails ctx.format (.block x) issue →
      ((s.editBlock x).run ctx).1 = .unchanged ∧
      ((s.editBlock x).run ctx).2.diagnostics = ctx.diagnostics ++ [issue.diagnostic]) ∧
    (∀ attr content,
      ((Container.classify attr content).run ctx).1 = some .languageVariant →
      (∀ issue, ¬s.Fails ctx.format (.block (.div attr content)) issue) ∧
      ∀ ctx', ∃ nodes,
        ((Container.replacement s.config s.files .languageVariant attr content).run.run ctx').1 =
          .ok nodes) ∧
    ∀ attr text, ((s.attemptInline (.code attr text)).run.run ctx).1 = .ok .unchanged ↔
      ∀ role, ¬attr.HasRole role := by
  refine ⟨fun x issue => ?_, fun x issue => ?_, fun x issue h => ?_, fun x issue h => ?_,
    fun attr content h => ⟨fun issue hfails => ?_, ?_⟩, fun attr text => ?_⟩
  · simp only [Setup.attemptInline_eq_error, exists_eq_left]
  · simp only [Setup.attemptBlock_eq_error, exists_eq_left]
  · exact settle_error _ _ (Setup.attemptInline_eq_error.mpr ⟨rfl, h⟩)
  · exact settle_error _ _ (Setup.attemptBlock_eq_error.mpr ⟨rfl, h⟩)
  · rw [Container.classify_run] at h
    have hlisting : ¬attr.IsListing := by
      intro hlisting
      rw [Container.kind?_eq_sourceInclude.mpr hlisting] at h
      cases h
    cases hfails with
    | noArguments hformat h => exact hlisting h
    | unreadable hformat h => exact hlisting h
  · rw [Container.classify_run] at h
    exact Container.languageVariant_ok h s.config
  · rw [Setup.attemptInline, Role.formatCode_eq_unchanged, Attr.forall_not_hasRole_iff]

/-- A run with two files around it that are no texts. -/
def binarySetup : Setup :=
  ⟨.default, .empty, ⟨fun name => ["a.o", "b.o"].contains name, fun _ => .ok ⟨#[0xff]⟩⟩⟩

/-- A context in which something was reported before. -/
def reportedContext (format : String) : Context :=
  (Context.start format).record (.unknownRole "file")

/-- A listing that names two files and an option. -/
def sampleListing : Block :=
  .div (.ofClasses ["container", "a.o", "source_include", ":code:C", "b.o", "x"]) []

/-- An item of a menu. -/
def sampleItem : Inline := .code ⟨"", ["interpreted-text"], [("role", "menu")]⟩ "File_Open"

/-- An admonition with a title of two words. -/
def sampleVariant : List Block :=
  [.para [.str "Language", .space, .str "Variant"], .para [.str "Ada"]]

theorem failures_are_isolated_sample :
    ((binarySetup.editBlock sampleListing).run (reportedContext "beamer")).1 = .unchanged ∧
      ((binarySetup.editBlock sampleListing).run (reportedContext "beamer")).2.diagnostics =
        [(Issue.unknownRole "file").diagnostic,
          (Issue.sourceUnreadable "b.o" FileError.notText.message).diagnostic] ∧
      ((binarySetup.editInline sampleItem).run (reportedContext "html")).1 =
        .unchanged ∧
      ((binarySetup.editInline sampleItem).run
          (reportedContext "html")).2.diagnostics =
        [(Issue.unknownRole "file").diagnostic,
          (Issue.unsupportedRole "menu" "html" "latex").diagnostic] ∧
      ((Container.classify (.ofClasses ["admonition"]) sampleVariant).run
        (reportedContext "beamer")).1 = some .languageVariant ∧
      ∀ issue, ¬binarySetup.Fails "beamer"
        (.block (.div (.ofClasses ["admonition"]) sampleVariant)) issue := by
  have hslides := failures_are_isolated binarySetup (reportedContext "beamer")
  have hpages := failures_are_isolated binarySetup (reportedContext "html")
  have hlisting : binarySetup.Fails "beamer" (.block sampleListing)
      (.sourceUnreadable "b.o" FileError.notText.message) :=
    .unreadable rfl ⟨rfl, rfl, by decide⟩ rfl rfl
  have hrole : binarySetup.Fails "html" (.inline sampleItem)
      (.unsupportedRole "menu" "html" "latex") :=
    @Setup.Fails.rawRole binarySetup "html" _ _ "menu" .menu (by decide) rfl rfl (by decide)
  have hkind : ((Container.classify (.ofClasses ["admonition"]) sampleVariant).run
      (reportedContext "beamer")).1 = some .languageVariant := by
    rw [Container.classify_run]
    decide +kernel
  obtain ⟨hlisting, hreported⟩ := hslides.2.2.2.1 _ _ hlisting
  obtain ⟨hrole, hreported'⟩ := hpages.2.2.1 _ _ hrole
  exact ⟨hlisting, hreported, hrole, hreported', hkind, (hslides.2.2.2.2.1 _ _ hkind).1⟩

end DeckFilter
