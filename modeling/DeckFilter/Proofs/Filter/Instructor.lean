import DeckFilter.Proofs.Filter.Results
import DeckFilter.Proofs.Walk.Alike

/-!
# What instructor mode changes

Instructor mode is looked at in one place, where the text of an answer or of an explanation is
rendered. So two runs, one for instructors and one for everyone else, ask about the same nodes, say
the same about them, and differ in the text of raw inlines alone.

* `Setup.withInstructor`: a run with instructor mode on or off;
* `Config.blank`: a document without the text of its raw inlines;
* `Config.Reveals`: answers and explanations;
* `Role.formatCode_congr`: code, as far as it is rendered;
* `Setup.edit_withInstructor`, `Setup.said_withInstructor`, `Setup.standing_alike`,
  `Setup.standing_withInstructor`: what becomes of a node;
* `instructor_mode_changes_raw_text`: what becomes of a document.
-/

namespace DeckFilter

/-! ## Two runs -/

/-- A run with instructor mode on or off. -/
def Setup.withInstructor (s : Setup) (on : Bool) : Setup :=
  { s with environment := { s.environment with instructor := on } }

namespace Config

variable (c : Config)

/-- An inline without its text if it is raw in the configured format. -/
def blankInline : Inline → Inline
  | .raw format text => .raw format (if format = c.rawFormat then "" else text)
  | x => x

/-- A document without the text of any raw inline in the configured format. -/
def blank (d : Document) : Document := (Answers.ofChange c.blankInline).document d

theorem blankInline_shallow : Answers.Shallow c.blankInline where
  mapLists x f g := by cases x <;> rfl
  lists x := by cases x <;> rfl

/-- A node is an answer or an explanation: code whose role is in one of these formats. -/
def Reveals : Node → Prop
  | .inline (.code attr _) => ∃ role, attr.HasRole role ∧
      (c.role? role = some .answer ∨ c.role? role = some .animate)
  | _ => False

end Config

/-! ## Nodes -/

theorem Role.render_of_ne {f : RoleFormat} (hanswer : f ≠ .answer) (hanimate : f ≠ .animate)
    (config : Config) (env env' : Environment) (text : String) :
    render config env f text = render config env' f text := by
  cases f with
  | answer => exact absurd rfl hanswer
  | animate => exact absurd rfl hanimate
  | _ => rfl

namespace Role

variable {config : Config} {attr : Attr} {text : String}

theorem formatCode_congr {env env' : Environment}
    (h : ∀ role f, roleOf? attr = some role → config.role? role = some f → f.isRaw →
      render config env f text = render config env' f text) :
    formatCode config env attr text = formatCode config env' attr text := by
  cases hrole : roleOf? attr with
  | none => rw [formatCode_of_none hrole, formatCode_of_none hrole]
  | some role =>
    cases hformat : config.role? role with
    | none => rw [formatCode_of_unknown hrole hformat, formatCode_of_unknown hrole hformat]
    | some f =>
      by_cases hraw : f.isRaw = true
      · rw [formatCode_of_isRaw hrole hformat hraw, formatCode_of_isRaw hrole hformat hraw,
          h role f hrole hformat hraw]
      · rw [formatCode_of_not_isRaw hrole hformat hraw, formatCode_of_not_isRaw hrole hformat hraw]

end Role

namespace Setup

variable (s : Setup) (format : String) (on : Bool)

theorem attemptInline_withInstructor {x : Inline} (h : ∀ attr text, x ≠ .code attr text) :
    (s.withInstructor on).attemptInline x = s.attemptInline x := by
  cases x with
  | code attr text => exact absurd rfl (h attr text)
  | _ => rfl

/-- **Instructor mode makes no difference to a node that is no code.** -/
theorem edit_withInstructor {x : Node} (h : ∀ attr text, x ≠ .inline (.code attr text)) :
    ((s.withInstructor on).answers format).standing x = (s.answers format).standing x ∧
      (s.withInstructor on).said format x = s.said format x := by
  cases x with
  | block x =>
    let result (e : StateM Context (Edit Block)) : List Node × Context :=
      (((e.run (.start format)).1.standing x).map .block, (e.run (.start format)).2)
    have hedit : (s.withInstructor on).editBlock x = s.editBlock x := rfl
    exact Prod.mk.inj (congrArg result hedit)
  | inline x =>
    let result (e : StateM Context (Edit Inline)) : List Node × Context :=
      (((e.run (.start format)).1.standing x).map .inline, (e.run (.start format)).2)
    have hedit : (s.withInstructor on).editInline x = s.editInline x := by
      rw [editInline, editInline,
        s.attemptInline_withInstructor on fun attr text hx => h attr text (congrArg Node.inline hx)]
    exact Prod.mk.inj (congrArg result hedit)

/-- **The same is said about a node** with instructor mode on or off. -/
theorem said_withInstructor (x : Node) :
    (s.withInstructor on).said format x = s.said format x := by
  by_cases hcode : ∃ attr text, x = .inline (.code attr text)
  · obtain ⟨attr, text, rfl⟩ := hcode
    have hsaid (s : Setup) : s.said format (.inline (.code attr text)) = ((settle "inline" "Code"
        (Role.formatCode s.config s.environment attr text)).run (.start format)).2 := rfl
    have hconfig : (s.withInstructor on).config = s.config := rfl
    rw [hsaid, hsaid, hconfig]
    by_cases hraw : ∃ role f, Role.roleOf? attr = some role ∧ s.config.role? role = some f ∧
        f.isRaw = true
    · obtain ⟨role, f, hrole, hformat, hraw⟩ := hraw
      rw [settle, settle, StateT.run_bind, StateT.run_bind,
        Role.formatCode_run_of_isRaw hrole hformat hraw,
        Role.formatCode_run_of_isRaw hrole hformat hraw]
      -- what is rendered is not reported
      split_ifs <;> rfl
    · rw [Role.formatCode_congr fun role f hrole hformat h =>
        absurd ⟨role, f, hrole, hformat, h⟩ hraw]
  · exact (s.edit_withInstructor format on fun attr text hx => hcode ⟨attr, text, hx⟩).2

theorem blank_codeAfter (attr : Attr) (text : String) :
    s.config.blankInline ((s.withInstructor on).codeAfter format attr text) =
      s.config.blankInline (s.codeAfter format attr text) := by
  have hconfig : (s.withInstructor on).config = s.config := rfl
  rw [codeAfter, codeAfter, hconfig]
  cases Role.roleOf? attr with
  | none => rfl
  | some role =>
    dsimp only
    cases s.config.role? role with
    | none => rfl
    | some f =>
      dsimp only
      split_ifs with hraw hslide
      · simp [Config.blankInline]
      · rfl
      · rfl

theorem standing_alike (x : Node) :
    (((s.withInstructor on).answers format).standing x).map
        (Answers.changeNode s.config.blankInline) =
      ((s.answers format).standing x).map (Answers.changeNode s.config.blankInline) := by
  by_cases hcode : ∃ attr text, x = .inline (.code attr text)
  · obtain ⟨attr, text, rfl⟩ := hcode
    rw [Answers.standing, Answers.standing, inline_code, inline_code]
    exact congrArg (fun y => [Node.inline y]) (s.blank_codeAfter format on attr text)
  · rw [(s.edit_withInstructor format on fun attr text hx => hcode ⟨attr, text, hx⟩).1]

theorem standing_withInstructor {x : Node}
    (h : format ≠ s.config.slideFormat ∨ ¬s.config.Reveals x) :
    ((s.withInstructor on).answers format).standing x = (s.answers format).standing x := by
  by_cases hcode : ∃ attr text, x = .inline (.code attr text)
  · obtain ⟨attr, text, rfl⟩ := hcode
    refine congrArg (List.map Node.inline) ?_
    by_cases hrender : ∀ role f, Role.roleOf? attr = some role →
        s.config.role? role = some f → f.isRaw →
        Role.render s.config (s.withInstructor on).environment f text =
          Role.render s.config s.environment f text
    · rw [inline_eq, inline_eq]
      exact congrArg (fun attempt => Attempt.standing _ (attempt.run.run (.start format)).1)
        (Role.formatCode_congr hrender)
    · push Not at hrender
      obtain ⟨role, f, hrole, hformat, hraw, hne⟩ := hrender
      have hreveals : s.config.Reveals (.inline (.code attr text)) := by
        refine ⟨role, Attr.hasRole_iff.mpr hrole, ?_⟩
        by_contra hother
        obtain ⟨hanswer, hanimate⟩ := not_or.mp hother
        refine hne (Role.render_of_ne ?_ ?_ _ _ _ _)
        · exact fun hf => hanswer (hf ▸ hformat)
        · exact fun hf => hanimate (hf ▸ hformat)
      have hslide := h.resolve_right (not_not_intro hreveals)
      rw [inline_code, inline_code, s.codeAfter_of_isRaw format hrole hformat hraw,
        (s.withInstructor on).codeAfter_of_isRaw format hrole hformat hraw, if_neg hslide]
      exact congrArg (fun y => [y]) (if_neg hslide)
  · exact (s.edit_withInstructor format on fun attr text hx => hcode ⟨attr, text, hx⟩).1

end Setup

/-- **Instructor mode changes answers and explanations alone.** With instructor mode on and off, the
same is said about a document, and what becomes of it is the same but for the text of raw inlines.
It is the same altogether in formats other than that of slides, or if the document has neither
answers nor explanations. -/
theorem instructor_mode_changes_raw_text (s : Setup) (format : String) (d : Document) :
    ((s.withInstructor true).filterDocument format d).2 =
      ((s.withInstructor false).filterDocument format d).2 ∧
    s.config.blank ((s.withInstructor true).filterDocument format d).1 =
      s.config.blank ((s.withInstructor false).filterDocument format d).1 ∧
    ((format ≠ s.config.slideFormat ∨ ∀ x ∈ d.nodes, ¬s.config.Reveals x) →
      ((s.withInstructor true).filterDocument format d).1 =
        ((s.withInstructor false).filterDocument format d).1) := by
  have ha := (s.withInstructor true).answers_ends format
  have ha' := (s.withInstructor false).answers_ends format
  have hblank := s.config.blankInline_shallow
  have halike (x : Node) := (s.standing_alike format true x).trans
    (s.standing_alike format false x).symm
  have hasked : d.lists.flatMap ((s.withInstructor true).answers format).asked =
      d.lists.flatMap ((s.withInstructor false).answers format).asked :=
    List.flatMap_congr fun l _ => Answers.asked_alike ha ha' hblank fun x _ => halike x
  have hsaid (nodes : List Node) : (s.withInstructor true).saidAll format nodes =
      (s.withInstructor false).saidAll format nodes := by
    rw [Setup.saidAll, Setup.saidAll]
    simp only [Setup.said_withInstructor]
  rw [Setup.filterDocument_eq, Setup.filterDocument_eq]
  refine ⟨?_, ?_, fun h => ?_⟩
  · simp only [hasked, hsaid]
  · exact Answers.document_alike ha ha' hblank fun x _ => halike x
  · refine Answers.document_congr ha ha' fun x hx => ?_
    have hx : format ≠ s.config.slideFormat ∨ ¬s.config.Reveals x := by
      refine h.imp_right fun h => ?_
      obtain ⟨l, hl, hx⟩ := List.mem_flatMap.mp hx
      rcases Setup.mem_asked _ format hx with hx | ⟨text, hx⟩
      · exact h x (List.mem_flatMap.mpr ⟨l, hl, hx⟩)
      · -- words are no code
        obtain ⟨word, hword, rfl⟩ := List.mem_map.mp hx
        rcases mem_tokenize hword with rfl | ⟨word, rfl⟩ <;> exact id
    rw [s.standing_withInstructor format true hx, s.standing_withInstructor format false hx]

/-- An answer, and an item of a menu in a note. -/
def sampleLesson : Document where
  apiVersion := [1, 22]
  metadata := []
  blocks := [.para [literal "answer" "2"], .para [.note [.plain [literal "menu" "Go"]]]]
where
  literal (role text : String) : Inline := .code ⟨"", ["interpreted-text"], [("role", role)]⟩ text

/-- The answer stands out for instructors only, on slides. -/
theorem instructor_mode_changes_raw_text_sample :
    ((Setup.plain.withInstructor true).filterDocument "beamer" sampleLesson).1 ≠
      ((Setup.plain.withInstructor false).filterDocument "beamer" sampleLesson).1 ∧
    Setup.plain.config.blank
        ((Setup.plain.withInstructor true).filterDocument "beamer" sampleLesson).1 =
      Setup.plain.config.blank
        ((Setup.plain.withInstructor false).filterDocument "beamer" sampleLesson).1 ∧
    ((Setup.plain.withInstructor true).filterDocument "html" sampleLesson).1 =
      ((Setup.plain.withInstructor false).filterDocument "html" sampleLesson).1 := by
  have hfirst (on : Bool) :
      ((Setup.plain.withInstructor on).filterDocument "beamer" sampleLesson).1.blocks.head? =
        some (.para [.raw "latex" (if on then Latex.answerHighlight "2" else "2")]) := by
    cases on <;> rfl
  have htext : Latex.answerHighlight "2" ≠ "2" := by decide
  have hslides := instructor_mode_changes_raw_text Setup.plain "beamer" sampleLesson
  have hpages := instructor_mode_changes_raw_text Setup.plain "html" sampleLesson
  refine ⟨fun h => htext ?_, hslides.2.1, hpages.2.2 (.inl (by decide))⟩
  have hsame := congrArg (fun d : Document => d.blocks.head?) h
  simp only [hfirst] at hsame
  simpa using hsame

end DeckFilter
