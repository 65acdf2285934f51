import DeckFilter.Proofs.Filter.Failures

/-!
# What flattening reports

A division is flattened for two reasons: the title of an admonition to see whether it is that of a
language variant, and the body of a language variant to spell its subtitle. What either leaves out
is reported. So a language variant is reported inline by inline, title before body; but the title of
any other admonition of two paragraphs is reported too, though the admonition stays as it is.

* `Container.titleIssues`: what the search for a kind leaves out;
* `Container.classify_context`, `Container.replacement_diagnostics`: what either step reports;
* `slide_divisions_report`: what is reported about a division on slides;
* `division_stays_and_is_reported`: a division may stay and be reported all the same.
-/

namespace DeckFilter

namespace Container

/-- What is left out of the title of a division, if its title has to be looked at: its classes name
no kind, and it is an admonition of two paragraphs. -/
def titleIssues (attr : Attr) (content : List Block) : List Issue :=
  match marked? attr, paragraphs? attr content with
  | none, some (title, _) => leftOut title
  | _, _ => []

variable {attr : Attr} {content : List Block}

theorem flatten_run (content : List Inline) (ctx : Context) : (flatten content).run ctx =
    (plainText content,
      { ctx with diagnostics := ctx.diagnostics ++ (leftOut content).map Issue.diagnostic }) :=
  congrArg (Prod.mk _) (Context.foldl_record (leftOut content) ctx)

/-- **The search for a kind reports what is left out of a title**, whatever it finds. -/
theorem classify_context (attr : Attr) (content : List Block) (ctx : Context) :
    ((classify attr content).run ctx).2 =
      { ctx with
        diagnostics := ctx.diagnostics ++ (titleIssues attr content).map Issue.diagnostic } := by
  rw [classify, titleIssues]
  cases marked? attr with
  | some kind => exact congrArg (Context.mk _ · _) (List.append_nil _).symm
  | none =>
    cases paragraphs? attr content with
    | none => exact congrArg (Context.mk _ · _) (List.append_nil _).symm
    | some p => exact congrArg Prod.snd (flatten_run p.1 ctx)

theorem content_of_paragraphs? {title body : List Inline}
    (h : paragraphs? attr content = some (title, body)) :
    content = [.para title, .para body] := by
  unfold paragraphs? at h
  split_ifs at h with hclass
  split at h
  · cases h
    rfl
  · cases h

theorem paragraphs_of_languageVariant (h : kind? attr content = some .languageVariant) :
    ∃ title body, content = [.para title, .para body] ∧
      paragraphs? attr content = some (title, body) ∧ titleIssues attr content = leftOut title := by
  obtain ⟨title, body, hparagraphs⟩ := paragraphs?_of_kind? h
  refine ⟨title, body, content_of_paragraphs? hparagraphs, hparagraphs, ?_⟩
  have hmarked : marked? attr = none := by
    refine Option.eq_none_iff_forall_ne_some.mpr fun kind hkind => ?_
    rw [kind?, hkind] at h
    exact marked?_ne_languageVariant (hkind.trans h)
  rw [titleIssues, hmarked, hparagraphs]

theorem titleIssues_of_kind {kind : ContainerKind} (h : kind? attr content = some kind)
    (hkind : kind ≠ .languageVariant) : titleIssues attr content = [] := by
  rw [kind?] at h
  rw [titleIssues]
  cases hmarked : marked? attr with
  | some kind' => rfl
  | none =>
    rw [hmarked] at h
    cases hparagraphs : paragraphs? attr content with
    | none => rfl
    | some p =>
      rw [hparagraphs] at h
      dsimp only at h
      split_ifs at h with hvariant
      exact absurd (Option.some.inj h).symm hkind

end Container

/-! ## Issues of other kinds -/

/-- The issue is that of an inline that is left out. -/
def Issue.isUnsupportedInline : Issue → Bool
  | unsupportedInline _ => true
  | _ => false

theorem Issue.isUnsupportedInline_of_diagnostic {i : Issue} {tag : String}
    (h : i.diagnostic = (unsupportedInline tag).diagnostic) : i.isUnsupportedInline := by
  have htitle : i.title = "Unsupported inline" := congrArg Diagnostic.title h
  cases i with
  | unsupportedInline => rfl
  | _ => simp [title] at htitle

section Reports

variable {α β : Type} {good : Issue → Prop}

/-- The attempt reports good issues alone, and fails with no other. -/
def Attempt.Reports (good : Issue → Prop) (a : Attempt α) : Prop := ∀ ctx,
  (∃ issues : List Issue, (∀ i ∈ issues, good i) ∧ (a.run.run ctx).2.diagnostics =
    ctx.diagnostics ++ issues.map Issue.diagnostic) ∧
  ∀ i, (a.run.run ctx).1 = .error i → good i

theorem Attempt.Reports.pure (x : α) : Attempt.Reports good (Pure.pure x) := by
  intro ctx
  refine ⟨⟨[], List.forall_mem_nil _, (List.append_nil _).symm⟩, ?_⟩
  intro i h
  cases h

theorem Attempt.Reports.throw {i : Issue} (h : good i) :
    Attempt.Reports good (throw i : Attempt α) := by
  intro ctx
  refine ⟨⟨[], List.forall_mem_nil _, (List.append_nil _).symm⟩, ?_⟩
  intro i' hi
  cases hi
  exact h

theorem report_reports {i : Issue} (h : good i) : (report i).Reports good := by
  intro ctx
  refine ⟨⟨[i], List.forall_mem_singleton.mpr h, rfl⟩, ?_⟩
  intro i' hi
  cases hi

theorem Attempt.Reports.bind {a : Attempt α} {f : α → Attempt β} (ha : a.Reports good)
    (hf : ∀ x, (f x).Reports good) : Attempt.Reports good (a >>= f) := by
  intro ctx
  obtain ⟨⟨issues, hissues, hreported⟩, herror⟩ := ha ctx
  rw [ExceptT.run_bind, StateT.run_bind]
  generalize a.run.run ctx = p at hreported herror ⊢
  obtain ⟨result, ctx'⟩ := p
  cases result with
  | error i =>
    refine ⟨⟨issues, hissues, hreported⟩, ?_⟩
    intro i' hi
    cases hi
    exact herror i rfl
  | ok x =>
    obtain ⟨⟨issues', hissues', hreported'⟩, herror'⟩ := hf x ctx'
    refine ⟨⟨issues ++ issues', List.forall_mem_append.mpr ⟨hissues, hissues'⟩, ?_⟩, herror'⟩
    rw [List.map_append, ← List.append_assoc, ← hreported]
    exact hreported'

/-- **What is reported about a node** are the issues of its attempt, the one it fails with
included. -/
theorem settle_reports (kind tag : String) {attempt : Attempt (Edit α)}
    (h : attempt.Reports good) (ctx : Context) : ∃ issues : List Issue, (∀ i ∈ issues, good i) ∧
      ((settle kind tag attempt).run ctx).2.diagnostics =
        ctx.diagnostics ++ issues.map Issue.diagnostic := by
  obtain ⟨⟨issues, hissues, hreported⟩, herror⟩ := h ctx
  rw [settle_diagnostics, hreported]
  cases hresult : (attempt.run.run ctx).1 with
  | ok answer => exact ⟨issues, hissues, List.append_nil _⟩
  | error i =>
    refine ⟨issues ++ [i], List.forall_mem_append.mpr ⟨hissues, ?_⟩, ?_⟩
    · exact List.forall_mem_singleton.mpr (herror i hresult)
    · rw [List.map_append, ← List.append_assoc]
      rfl

end Reports

theorem Listing.codeBlock_reports (files : Files) (defaultLanguage : String)
    (classes : List String) :
    (codeBlock files defaultLanguage classes).Reports fun i => ¬i.isUnsupportedInline := by
  have htext (l : Listing) : (l.text files).Reports fun i => ¬i.isUnsupportedInline := by
    unfold text
    split
    · split
      · exact .pure _
      · exact .throw Bool.false_ne_true
    · exact (report_reports Bool.false_ne_true).bind fun _ => .pure _
  unfold codeBlock
  dsimp only
  split_ifs
  · exact Attempt.Reports.bind (.throw Bool.false_ne_true) fun _ =>
      (htext _).bind fun _ => .pure _
  · exact (htext _).bind fun _ => .pure _

theorem Container.replacement_reports (config : Config) (files : Files) {kind : ContainerKind}
    (hkind : kind ≠ .languageVariant) (attr : Attr) (content : List Block) :
    (replacement config files kind attr content).Reports fun i => ¬i.isUnsupportedInline := by
  cases kind with
  | speakerNote | animate | latexEnvironment => exact .pure _
  | sourceInclude => exact (Listing.codeBlock_reports _ _ _).bind fun _ => .pure _
  | languageVariant => exact absurd rfl hkind

/-! ## Divisions -/

namespace Setup

variable (s : Setup) {ctx : Context} {attr : Attr} {content : List Block}

theorem attemptBlock_div_run (attr : Attr) (content : List Block)
    (hslide : ctx.format = s.config.slideFormat) :
    (s.attemptBlock (.div attr content)).run.run ctx =
      ((match Container.kind? attr content with
        | some kind => .replace <$> Container.replacement s.config s.files kind attr content
        | none => pure .unchanged : Attempt (Edit Block)).run.run
          { ctx with diagnostics :=
            ctx.diagnostics ++ (Container.titleIssues attr content).map Issue.diagnostic }) := by
  rw [attemptBlock, Attempt.run_get_bind, if_pos hslide, ← Container.classify_context]
  change ((liftM (Container.classify attr content) : Attempt _) >>= _).run.run ctx = _
  rw [Attempt.run_lift_bind]
  have hkind := Container.classify_run attr content ctx
  generalize ((Container.classify attr content).run ctx).1 = kind at hkind ⊢
  subst hkind
  rfl

theorem editBlock_of_unclassified (hslide : ctx.format = s.config.slideFormat)
    (hkind : Container.kind? attr content = none) :
    ((s.editBlock (.div attr content)).run ctx).1 = .unchanged ∧
      ((s.editBlock (.div attr content)).run ctx).2.diagnostics =
        ctx.diagnostics ++ (Container.titleIssues attr content).map Issue.diagnostic := by
  have hrun := s.attemptBlock_div_run attr content hslide
  rw [hkind] at hrun
  constructor
  · rw [editBlock, settle, StateT.run_bind, hrun]
    rfl
  · rw [editBlock, settle_diagnostics, hrun]
    exact List.append_nil _

theorem editBlock_of_languageVariant (hslide : ctx.format = s.config.slideFormat)
    (hkind : Container.kind? attr content = some .languageVariant) :
    ∃ title body, content = [.para title, .para body] ∧
      ((s.editBlock (.div attr content)).run ctx).1 = .replace [.raw s.config.rawFormat
        (Container.subtitle s.config.boxColor (Container.plainText body))] ∧
      ((s.editBlock (.div attr content)).run ctx).2.diagnostics = ctx.diagnostics ++
        (Container.leftOut title ++ Container.leftOut body).map Issue.diagnostic := by
  obtain ⟨title, body, hcontent, hparagraphs, htitle⟩ :=
    Container.paragraphs_of_languageVariant hkind
  have hrun := s.attemptBlock_div_run attr content hslide
  rw [hkind, htitle] at hrun
  dsimp only at hrun
  rw [Attempt.run_map, Container.replacement, Container.languageVariant, hparagraphs] at hrun
  dsimp only at hrun
  rw [Attempt.run_lift_bind, Container.flatten_run] at hrun
  refine ⟨title, body, hcontent, ?_, ?_⟩
  · rw [editBlock, settle, StateT.run_bind, hrun]
    rfl
  · rw [editBlock, settle_diagnostics, hrun, List.map_append, ← List.append_assoc]
    exact List.append_nil _

theorem editBlock_of_kind {kind : ContainerKind}
    (hkind : Container.kind? attr content = some kind) (hvariant : kind ≠ .languageVariant) :
    ∃ issues : List Issue, (∀ i ∈ issues, ¬i.isUnsupportedInline) ∧
      ((s.editBlock (.div attr content)).run ctx).2.diagnostics =
        ctx.diagnostics ++ issues.map Issue.diagnostic := by
  have hreports : (s.attemptBlock (.div attr content)).Reports fun i => ¬i.isUnsupportedInline := by
    intro ctx
    by_cases hslide : ctx.format = s.config.slideFormat
    · rw [s.attemptBlock_div_run attr content hslide, hkind,
        Container.titleIssues_of_kind hkind hvariant, List.map_nil, List.append_nil]
      have hreplacement :=
        Container.replacement_reports s.config s.files hvariant attr content
      exact (hreplacement.bind fun _ => .pure _) ctx
    · rw [attemptBlock, Attempt.run_get_bind, if_neg hslide]
      exact Attempt.Reports.pure _ ctx
  exact settle_reports _ _ hreports ctx

end Setup

/-- **What is reported about a division on slides.** One of no kind stays, and what is left out of
its title is reported if it is an admonition of two paragraphs whose classes name no kind. A
language variant gives way to its subtitle, and every inline of its title and then of its body that
is neither a word nor a blank is reported, once. No inline is reported about a division of another
kind. -/
theorem slide_divisions_report (s : Setup) (earlier : List Diagnostic) (log : List Log.Event)
    (attr : Attr) (content : List Block) :
    let ctx : Context := ⟨s.config.slideFormat, earlier, log⟩
    let after := (s.editBlock (.div attr content)).run ctx
    match ((Container.classify attr content).run ctx).1 with
    | none => after.1 = .unchanged ∧ after.2.diagnostics =
        earlier ++ (Container.titleIssues attr content).map Issue.diagnostic
    | some .languageVariant => ∃ title body, content = [.para title, .para body] ∧
        after.1 = .replace [.raw s.config.rawFormat
          (Container.subtitle s.config.boxColor (Container.plainText body))] ∧
        after.2.diagnostics =
          earlier ++ (Container.leftOut title ++ Container.leftOut body).map Issue.diagnostic
    | some _ => ∃ added, after.2.diagnostics = earlier ++ added ∧
        ∀ tag, (Issue.unsupportedInline tag).diagnostic ∉ added := by
  intro ctx after
  have hslide : ctx.format = s.config.slideFormat := rfl
  rw [Container.classify_run]
  have hother (kind : ContainerKind) (hkind : Container.kind? attr content = some kind)
      (hvariant : kind ≠ .languageVariant) : ∃ added, after.2.diagnostics = earlier ++ added ∧
        ∀ tag, (Issue.unsupportedInline tag).diagnostic ∉ added := by
    obtain ⟨issues, hissues, hadded⟩ := s.editBlock_of_kind hkind hvariant
    refine ⟨_, hadded, fun tag htag => ?_⟩
    obtain ⟨i, hi, hdiagnostic⟩ := List.mem_map.mp htag
    exact hissues i hi (Issue.isUnsupportedInline_of_diagnostic hdiagnostic)
  cases hkind : Container.kind? attr content with
  | none => exact s.editBlock_of_unclassified hslide hkind
  | some kind =>
    cases kind with
    | languageVariant => exact s.editBlock_of_languageVariant hslide hkind
    | speakerNote | sourceInclude | animate | latexEnvironment => exact hother _ hkind nofun

/-- An admonition with emphasis in its title, which is not that of a language variant. -/
def sampleHint : List Block := [.para [.styled .emph [.str "Hint"]], .para [.str "Ada"]]

/-- **A division may stay and be reported all the same**: its title has to be flattened to see that
it is no language variant. -/
theorem division_stays_and_is_reported :
    ¬∀ (s : Setup) (ctx : Context) (attr : Attr) (content : List Block),
      ctx.format = s.config.slideFormat →
        ((Container.classify attr content).run ctx).1 = none →
          ((s.editBlock (.div attr content)).run ctx).2.diagnostics = ctx.diagnostics := by
  intro h
  have hkind : Container.kind? (.ofClasses ["admonition"]) sampleHint = none := by decide +kernel
  have hunreported := h binarySetup (.start "beamer") (.ofClasses ["admonition"]) sampleHint rfl
    ((Container.classify_run _ _ _).trans hkind)
  rw [(binarySetup.editBlock_of_unclassified rfl hkind).2] at hunreported
  cases hunreported

end DeckFilter
