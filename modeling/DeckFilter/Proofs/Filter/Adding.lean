import DeckFilter.Filter
import DeckFilter.Proofs.Role.Formats

/-!
# Steps that only add to the context

Nothing a step does to a node looks at what was reported before, and what is reported stays. So a
step does in every context what it does at the start of a run in the same output format, and its
diagnostics and events come after those that are there.

* `Context.append`: what is added comes after what is there;
* `Adds`, `Attempt.Adds`: the steps, with `Adds.bind` and `Attempt.Adds.bind`;
* `Setup.editInline_adds`, `Setup.editBlock_adds`: what becomes of single nodes.
-/

namespace DeckFilter

/-! ## Adding to a context -/

namespace Context

/-- The diagnostics and events of another context come after those of this one. -/
def append (c added : Context) : Context :=
  ⟨c.format, c.diagnostics ++ added.diagnostics, c.log ++ added.log⟩

@[simp]
theorem append_format (c added : Context) : (c.append added).format = c.format := rfl

@[simp]
theorem append_start (c : Context) (format : String) : c.append (.start format) = c := by
  simp [append, start]

theorem foldl_record (issues : List Issue) (c : Context) :
    issues.foldl (fun ctx i => ctx.record i) c =
      { c with diagnostics := c.diagnostics ++ issues.map Issue.diagnostic } := by
  induction issues generalizing c with
  | nil => simp
  | cons i issues ih =>
    rw [List.foldl_cons, ih]
    simp [record, add]

theorem append_assoc (c d e : Context) : (c.append d).append e = c.append (d.append e) := by
  simp [append]

end Context

/-- The step does in every context what it does at the start of a run in the same format, and adds
what it reports to what is there. -/
def Adds {α : Type} (a : StateM Context α) : Prop := ∀ ctx : Context,
  a.run ctx = ((a.run (.start ctx.format)).1, ctx.append (a.run (.start ctx.format)).2)

section Steps

variable {α β : Type}

theorem Adds.pure (x : α) : Adds (Pure.pure x) := by
  intro ctx
  change (x, ctx) = (x, ctx.append (.start ctx.format))
  rw [Context.append_start]

theorem Adds.format {a : StateM Context α} (h : Adds a) (ctx : Context) :
    (a.run ctx).2.format = ctx.format := by
  rw [h]
  rfl

theorem Adds.bind {a : StateM Context α} {f : α → StateM Context β} (ha : Adds a)
    (hf : ∀ x, Adds (f x)) : Adds (a >>= f) := by
  intro ctx
  have hformat := ha.format (.start ctx.format)
  rw [StateT.run_bind, StateT.run_bind, ha ctx]
  generalize a.run (.start ctx.format) = p at hformat ⊢
  obtain ⟨x, c⟩ := p
  -- the second step starts in two contexts of one format, after the first one has added to both
  change (f x).run (ctx.append c) = (((f x).run c).1, ctx.append ((f x).run c).2)
  rw [hf x (ctx.append c), hf x c, show c.format = ctx.format from hformat, Context.append_format,
    Context.append_assoc]

theorem Adds.map {a : StateM Context α} (ha : Adds a) (f : α → β) : Adds (f <$> a) := by
  rw [map_eq_pure_bind]
  exact ha.bind fun x => .pure (f x)

theorem Adds.change {f : Context → Context}
    (h : ∀ ctx : Context, f ctx = ctx.append (f (.start ctx.format))) : Adds (modify f) := by
  intro ctx
  change (PUnit.unit, f ctx) = (PUnit.unit, ctx.append (f (.start ctx.format)))
  rw [← h]

theorem Adds.get_bind {f : Context → StateM Context α} (h : ∀ ctx, f ctx = f (.start ctx.format))
    (hf : ∀ ctx, Adds (f ctx)) : Adds (get >>= f) := by
  intro ctx
  change (f ctx).run ctx = (((f (.start ctx.format)).run (.start ctx.format)).1,
    ctx.append ((f (.start ctx.format)).run (.start ctx.format)).2)
  rw [h ctx, hf]

end Steps

/-! ## Attempts -/

section Attempts

variable {α β : Type}

/-- The attempt only adds to the context, whether it succeeds or not. -/
def Attempt.Adds (a : Attempt α) : Prop := DeckFilter.Adds a.run

theorem Attempt.Adds.pure (x : α) : Attempt.Adds (Pure.pure x) := by
  have h : DeckFilter.Adds (Pure.pure (Except.ok x) : StateM Context (Except Issue α)) := .pure _
  exact h

theorem Attempt.Adds.throw (i : Issue) : Attempt.Adds (throw i : Attempt α) := by
  have h : DeckFilter.Adds (Pure.pure (Except.error i) : StateM Context (Except Issue α)) := .pure _
  exact h

theorem Attempt.Adds.bind {a : Attempt α} {f : α → Attempt β} (ha : a.Adds)
    (hf : ∀ x, (f x).Adds) : Attempt.Adds (a >>= f) := by
  rw [Attempt.Adds, ExceptT.run_bind]
  refine DeckFilter.Adds.bind ha fun result => ?_
  cases result with
  | error i => exact .pure _
  | ok x => exact hf x

theorem Attempt.Adds.map {a : Attempt α} (ha : a.Adds) (f : α → β) : Attempt.Adds (f <$> a) := by
  rw [map_eq_pure_bind]
  exact ha.bind fun x => .pure (f x)

theorem Attempt.Adds.lift {a : StateM Context α} (ha : DeckFilter.Adds a) :
    Attempt.Adds (liftM a : Attempt α) := by
  have h : DeckFilter.Adds (Except.ok (ε := Issue) <$> a) := ha.map _
  exact h

theorem Attempt.Adds.get_bind {f : Context → Attempt α} (h : ∀ ctx, f ctx = f (.start ctx.format))
    (hf : ∀ ctx, (f ctx).Adds) : Attempt.Adds (get >>= f) :=
  DeckFilter.Adds.get_bind (f := fun ctx => (f ctx).run) (fun ctx => by rw [h ctx]) hf

theorem report_adds (i : Issue) : (report i).Adds :=
  .lift (.change fun ctx => by simp [Context.record, Context.add, Context.append, Context.start])

theorem settle_adds (kind tag : String) {attempt : Attempt (Edit α)} (h : attempt.Adds) :
    Adds (settle kind tag attempt) := by
  refine Adds.bind h fun result => ?_
  match result with
  | .ok .unchanged => exact .pure _
  | .ok .delete | .ok (.replace _) =>
    refine Adds.bind (.change fun ctx => ?_) fun _ => .pure _
    simp [Context.note, Context.append, Context.start]
  | .error i =>
    refine Adds.bind (.change fun ctx => ?_) fun _ => .pure _
    simp [Context.note, Context.record, Context.add, Context.append, Context.start]

end Attempts

/-! ## Nodes -/

theorem Role.formatCode_adds (config : Config) (env : Environment) (attr : Attr) (text : String) :
    (formatCode config env attr text).Adds := by
  refine formatCode_cases config env attr text ?stays ?unknown ?words ?markup
  case stays => exact .pure _
  case unknown => exact fun role => (report_adds _).bind fun _ => .pure _
  case words => exact fun f => .pure _
  case markup =>
    intro role f
    refine .get_bind (fun ctx => rfl) fun ctx => ?_
    split_ifs
    · exact .pure _
    · exact .throw _

theorem Setup.attemptInline_adds (s : Setup) (x : Inline) : (s.attemptInline x).Adds := by
  unfold attemptInline
  split
  · exact .pure _
  · exact Role.formatCode_adds _ _ _ _
  · exact .pure _
  · exact .pure _

theorem Container.flatten_adds (content : List Inline) : Adds (flatten content) := by
  refine Adds.bind (.change fun ctx => ?_) fun _ => .pure _
  rw [Context.foldl_record, Context.foldl_record]
  simp [Context.append, Context.start]

theorem Container.classify_adds (attr : Attr) (content : List Block) :
    Adds (classify attr content) := by
  unfold classify
  split
  · exact .pure _
  split
  · exact .pure _
  · exact (flatten_adds _).bind fun _ => .pure _

theorem Listing.codeBlock_adds (files : Files) (defaultLanguage : String) (classes : List String) :
    (codeBlock files defaultLanguage classes).Adds := by
  have htext (l : Listing) : (l.text files).Adds := by
    unfold text
    split
    · split
      · exact .pure _
      · exact .throw _
    · exact (report_adds _).bind fun _ => .pure _
  unfold codeBlock
  dsimp only
  split_ifs
  · exact Attempt.Adds.bind (.throw _) fun _ => (htext _).bind fun _ => .pure _
  · exact (htext _).bind fun _ => .pure _

theorem Container.replacement_adds (config : Config) (files : Files) (kind : ContainerKind)
    (attr : Attr) (content : List Block) : (replacement config files kind attr content).Adds := by
  cases kind with
  | speakerNote | animate | latexEnvironment => exact .pure _
  | sourceInclude => exact (Listing.codeBlock_adds _ _ _).bind fun _ => .pure _
  | languageVariant =>
    rw [replacement, languageVariant]
    split
    · exact .throw _
    · exact (Attempt.Adds.lift (flatten_adds _)).bind fun _ => .pure _

theorem Setup.attemptSlideBlock_adds (s : Setup) (x : Block) : (s.attemptSlideBlock x).Adds := by
  unfold attemptSlideBlock
  split
  · exact .pure _
  · exact .pure _
  · refine (Attempt.Adds.lift (Container.classify_adds _ _)).bind fun kind => ?_
    split
    · exact (Container.replacement_adds _ _ _ _ _).map _
    · exact .pure _
  · exact .pure _

theorem Setup.attemptBlock_adds (s : Setup) (x : Block) : (s.attemptBlock x).Adds := by
  refine .get_bind (fun ctx => rfl) fun ctx => ?_
  split_ifs
  · exact s.attemptSlideBlock_adds x
  · exact .pure _

/-- **What becomes of an inline only adds to the context.** -/
theorem Setup.editInline_adds (s : Setup) (x : Inline) : Adds (s.editInline x) :=
  settle_adds _ _ (s.attemptInline_adds x)

/-- **What becomes of a block only adds to the context.** -/
theorem Setup.editBlock_adds (s : Setup) (x : Block) : Adds (s.editBlock x) :=
  settle_adds _ _ (s.attemptBlock_adds x)

end DeckFilter
