import DeckFilter.Proofs.Filter.OtherFormats

/-!
# What is reported about roles

In formats other than that of slides, nothing is reported but what is wrong with the roles of code
inlines: every unknown role is, and every role of raw markup, once and in reading order.

* `Node.role?`: the role that a node names;
* `Setup.roleDiagnostic?`, `Setup.unsupported`: what is said of it, and whether the node stays for
  it;
* `Setup.saidAll_diagnostics`, `Setup.said_diagnostics`: what is reported about nodes;
* `diagnostics_account_for_roles`: what is reported about a document.
-/

namespace DeckFilter

/-! ## Roles -/

/-- The role that a node names, if it is a code inline that has one. -/
def Node.role? : Node → Option String
  | .inline (.code attr _) => (attr.firstPair.map Prod.snd).filter fun role => attr.HasRole role
  | _ => none

theorem Node.role?_code (attr : Attr) (text : String) :
    (Node.inline (.code attr text)).role? = Role.roleOf? attr := by
  refine Option.ext fun role => ?_
  rw [role?, Option.filter_eq_some_iff, decide_eq_true_iff, ← Attr.hasRole_iff]
  refine and_iff_right_of_imp fun h => ?_
  obtain ⟨later, hpairs⟩ := h.named
  rw [Attr.firstPair, hpairs]
  rfl

namespace Setup

variable (s : Setup) (format : String)

/-- What is said of the role of a node in a format other than that of slides: that it is not in the
table, or that it is raw markup there. -/
def roleDiagnostic? (x : Node) : Option Diagnostic :=
  x.role?.bind fun role =>
    match s.config.role? role with
    | none => some (.unknownRole role)
    | some f => if f.isRaw then some (.unsupportedRole role format s.config.rawFormat) else none

/-- The role of a node is raw markup in the table. -/
def unsupported (x : Node) : Bool := (x.role?.bind s.config.role?).any RoleFormat.isRaw

theorem unsupported_eq (x : Node) : s.unsupported x =
    (s.roleDiagnostic? format x).any fun message => message.code = some "B-3-1" := by
  rw [unsupported, roleDiagnostic?]
  cases x.role? with
  | none => rfl
  | some role =>
    rw [Option.bind_some, Option.bind_some]
    cases s.config.role? role with
    | none => rfl
    | some f => cases hraw : f.isRaw <;> simp [hraw, Diagnostic.unsupportedRole]

/-! ## What is reported -/

theorem saidAll_diagnostics (nodes : List Node) : (s.saidAll format nodes).diagnostics =
    nodes.flatMap fun x => (s.said format x).diagnostics := by
  induction nodes with
  | nil => rfl
  | cons x nodes ih =>
    rw [← List.singleton_append, saidAll_append, List.flatMap_append, List.flatMap_singleton, ← ih]
    rfl

theorem said_code {format : String} (h : format ≠ s.config.slideFormat) (attr : Attr)
    (text : String) : (s.said format (.inline (.code attr text))).diagnostics =
      (s.roleDiagnostic? format (.inline (.code attr text))).toList := by
  change ((settle _ _ (Role.formatCode s.config s.environment attr text)).run _).2.diagnostics = _
  rw [settle_diagnostics, roleDiagnostic?, Node.role?_code]
  cases hrole : Role.roleOf? attr with
  | none =>
    rw [Role.formatCode_of_none hrole]
    rfl
  | some role =>
    rw [Option.bind_some]
    cases hformat : s.config.role? role with
    | none =>
      rw [Role.formatCode_of_unknown hrole hformat]
      rfl
    | some f =>
      by_cases hraw : f.isRaw
      · rw [Role.formatCode_run_of_isRaw hrole hformat hraw,
          if_neg (show (Context.start format).format ≠ _ from h)]
        dsimp only
        rw [if_pos hraw]
        rfl
      · rw [Role.formatCode_of_not_isRaw hrole hformat hraw]
        dsimp only
        rw [if_neg hraw]
        rfl

/-- **What is reported about a node** in a format other than that of slides is what is wrong with
its role. -/
theorem said_diagnostics {format : String} (h : format ≠ s.config.slideFormat) (x : Node) :
    (s.said format x).diagnostics = (s.roleDiagnostic? format x).toList := by
  cases x with
  | block x =>
    change ((settle _ _ (s.attemptBlock x)).run _).2.diagnostics = _
    rw [settle_diagnostics, attemptBlock, Attempt.run_get_bind,
      if_neg (show ¬(Context.start format).format = _ from h)]
    rfl
  | inline x =>
    cases x with
    | code attr text => exact s.said_code h attr text
    | span attr content =>
      change ((settle _ _ (pure (Role.formatTitle s.config attr content))).run _).2.diagnostics = _
      rw [settle_diagnostics]
      rfl
    | _ => rfl

/-! ## What is left -/

theorem codeAfter_of_unsupported {format : String} (h : format ≠ s.config.slideFormat) {attr : Attr}
    {text : String} (hx : s.unsupported (.inline (.code attr text))) :
    s.codeAfter format attr text = .code attr text := by
  obtain ⟨f, hf, hraw⟩ := (Option.any_eq_true _ _).mp hx
  rw [Node.role?_code] at hf
  obtain ⟨role, hrole, hformat⟩ := Option.bind_eq_some_iff.mp hf
  rw [s.codeAfter_of_isRaw format hrole hformat hraw, if_neg h]

theorem role?_codeAfter (format : String) {attr : Attr} {text : String}
    (hx : ¬s.unsupported (.inline (.code attr text))) (f : List Inline → List Inline)
    (g : List Block → List Block) :
    (Node.inline ((s.codeAfter format attr text).mapLists f g)).role? = none := by
  rw [unsupported, Node.role?_code] at hx
  rw [codeAfter]
  cases hrole : Role.roleOf? attr with
  | none => exact (Node.role?_code attr text).trans hrole
  | some role =>
    rw [hrole, Option.bind_some] at hx
    dsimp only
    cases hformat : s.config.role? role with
    | none => rfl
    | some f =>
      rw [hformat] at hx
      exact congrArg (fun y : Inline => (Node.inline (y.mapLists _ _)).role?) (if_neg hx)

/-- **The nodes that name a role in the result** are those whose role is raw markup. -/
theorem guard_role?_nodeAfter {format : String} (h : format ≠ s.config.slideFormat)
    (f : List Inline → List Inline) (g : List Block → List Block) (x : Node) :
    Option.guard (fun y => y.role?.isSome) ((s.nodeAfter format x).mapLists f g) =
      Option.guard s.unsupported x := by
  cases x with
  | block x => rfl
  | inline x =>
    cases x with
    | code attr text =>
      by_cases hx : s.unsupported (.inline (.code attr text))
      · have hrole : (Node.inline (.code attr text)).role?.isSome := by
          obtain ⟨f, hf, -⟩ := (Option.any_eq_true _ _).mp hx
          obtain ⟨role, hrole, -⟩ := Option.bind_eq_some_iff.mp hf
          exact Option.isSome_of_eq_some hrole
        rw [nodeAfter, inlineAfter, s.codeAfter_of_unsupported h hx]
        exact (if_pos hrole).trans (if_pos hx).symm
      · have hrole := s.role?_codeAfter format hx f g
        refine (if_neg ?_).trans (if_neg hx).symm
        exact Option.not_isSome_iff_eq_none.mpr hrole
    | span attr content =>
      rw [nodeAfter, inlineAfter]
      split_ifs <;> rfl
    | _ => rfl

end Setup

/-- **In formats other than that of slides, the diagnostics account for the roles of a document.**
There is a notice for every code inline whose role is not in the table and a warning for every one
whose role is raw markup, in reading order, and there is nothing else. The code inlines that are
warned of are those that still name a role in the result. -/
theorem diagnostics_account_for_roles (s : Setup) {format : String}
    (h : format ≠ s.config.slideFormat) (d : Document) :
    (s.filterDocument format d).2.diagnostics = d.nodes.filterMap (s.roleDiagnostic? format) ∧
    ((s.filterDocument format d).1.nodes.filter fun x => x.role?.isSome) =
      d.nodes.filter fun x =>
        (s.roleDiagnostic? format x).any fun message => message.code = some "B-3-1" := by
  have ha := s.answers_ends format
  have hchange := s.answers_changesTo h
  have hsaid : ∀ l : NodeList,
      ((s.answers format).asked l).flatMap (fun x => (s.said format x).diagnostics) =
        l.nodes.filterMap (s.roleDiagnostic? format) := by
    intro l
    rw [← Answers.filterMap_asked ha hchange (s.filterMap_below format rfl fun word => rfl) l,
      List.filterMap_eq_flatMap_toList]
    exact List.flatMap_congr fun x _ => s.said_diagnostics h x
  rw [s.filterDocument_eq]
  constructor
  · change (s.saidAll format _).diagnostics = _
    rw [s.saidAll_diagnostics, List.flatMap_assoc, Document.nodes, List.filterMap_flatMap]
    exact List.flatMap_congr fun l _ => hsaid l
  · simp only [← s.unsupported_eq format]
    rw [← List.filterMap_eq_filter, ← List.filterMap_eq_filter]
    exact Answers.filterMap_nodes_document ha hchange
      (s.filterMap_below format rfl fun word => rfl) (s.guard_role?_nodeAfter h _ _) d

/-- A code inline with a role. -/
def codeWithRole (role text : String) : Inline :=
  .code ⟨"", ["interpreted-text"], [("role", role)]⟩ text

/-- An unknown role in the metadata, raw markup in the title of a figure and in a note, and a role
of emphasis. -/
def sampleRoles : Document where
  apiVersion := [1, 22]
  metadata := [("title", .inlines [codeWithRole "file" "a"])]
  blocks := [.figure .empty ⟨none, some [.plain [codeWithRole "menu" "b"]]⟩ [],
    .para [codeWithRole "toolname" "c", .note [.para [codeWithRole "answer" "d"]]]]

theorem diagnostics_account_for_roles_sample :
    "html" ≠ Setup.plain.config.slideFormat ∧
      (Setup.plain.filterDocument "html" sampleRoles).2.diagnostics =
        [.unknownRole "file", .unsupportedRole "menu" "html" "latex",
          .unsupportedRole "answer" "html" "latex"] ∧
      ((Setup.plain.filterDocument "html" sampleRoles).1.nodes.filter fun x => x.role?.isSome) =
        [.inline (codeWithRole "menu" "b"), .inline (codeWithRole "answer" "d")] := by
  have hformat : "html" ≠ Setup.plain.config.slideFormat := by decide
  have hnodes : sampleRoles.nodes = [.inline (codeWithRole "file" "a"),
      .block (.figure .empty ⟨none, some [.plain [codeWithRole "menu" "b"]]⟩ []),
      .block (.plain [codeWithRole "menu" "b"]), .inline (codeWithRole "menu" "b"),
      .block (.para [codeWithRole "toolname" "c", .note [.para [codeWithRole "answer" "d"]]]),
      .inline (codeWithRole "toolname" "c"), .inline (.note [.para [codeWithRole "answer" "d"]]),
      .block (.para [codeWithRole "answer" "d"]), .inline (codeWithRole "answer" "d")] := by
    simp [sampleRoles, codeWithRole, Document.nodes, Document.lists, metaEntriesLists,
      MetaValue.lists, NodeList.nodes_eq, NodeList.members, Node.nodes, Node.lists, Block.lists,
      Inline.lists, Caption.lists]
  obtain ⟨hdiagnostics, hleft⟩ := diagnostics_account_for_roles Setup.plain hformat sampleRoles
  refine ⟨hformat, hdiagnostics.trans ?_, hleft.trans ?_⟩
  · rw [hnodes]
    rfl
  · rw [hnodes]
    rfl

end DeckFilter
