import DeckFilter.Role
import Mathlib.Tactic.SplitIfs

/-!
# The formats of roles

What becomes of a code inline is said here by six rules, of which one applies. The first pair of the
inline names its role, and the table names the format of the role. Text whose role is not in the
table is formatted as titles are, which is how the role `default` formats it unless that role is raw
markup.

* `Role.formatCode_cases`: what the attempt at a code inline can be;
* `Attr.HasRole`: the role of a code inline;
* `Diagnostic.unknownRole`, `Diagnostic.unsupportedRole`: what can be said of it;
* `Config.defaultStyle`: the style of text without a role of its own;
* `Role.Formats`, **`Role.formats_iff`**: what becomes of a code inline;
* `Role.formatCode_eq_error`, `Role.formatCode_eq_unchanged`: when it is an issue, when it stays;
* `Role.formatCode_pairs`: only the first pair is looked at;
* `roles_format_their_text`: all of it.
-/

namespace DeckFilter

/-! ## Attempts at code -/

namespace Role

theorem render_isSome {f : RoleFormat} (h : f.isRaw) (config : Config) (env : Environment)
    (text : String) : (render config env f text).isSome := by
  cases f <;> first | rfl | cases h

section Cases

variable {config : Config} {env : Environment} {attr : Attr} {text role : String} {f : RoleFormat}

theorem formatCode_of_none (hrole : roleOf? attr = none) :
    formatCode config env attr text = pure .unchanged := by
  rw [formatCode, hrole]

theorem formatCode_of_unknown (hrole : roleOf? attr = some role)
    (hformat : config.role? role = none) : formatCode config env attr text = (do
      report (.unknownRole role)
      pure (.replace [applyDefault config (tokenize text)])) := by
  rw [formatCode, hrole]
  dsimp only
  rw [hformat]

theorem formatCode_of_not_isRaw (hrole : roleOf? attr = some role)
    (hformat : config.role? role = some f) (hraw : ¬f.isRaw) :
    formatCode config env attr text = pure (.replace [emphasize f (tokenize text)]) := by
  rw [formatCode, hrole]
  dsimp only
  rw [hformat]
  exact if_pos (by simpa using hraw)

theorem formatCode_of_isRaw (hrole : roleOf? attr = some role)
    (hformat : config.role? role = some f) (hraw : f.isRaw) :
    formatCode config env attr text = (do
      let ctx ← get
      if ctx.format = config.slideFormat then
        pure (.replace [.raw config.rawFormat ((render config env f text).getD "")])
      else throw (.unsupportedRole role ctx.format config.rawFormat)) := by
  obtain ⟨rendered, hrendered⟩ := Option.isSome_iff_exists.mp (render_isSome hraw config env text)
  rw [formatCode, hrole]
  dsimp only
  rw [hformat]
  dsimp only
  rw [if_neg (by simp [hraw]), hrendered]
  refine bind_congr fun ctx => ?_
  by_cases hslide : ctx.format = config.slideFormat
  · rw [if_pos hslide, if_neg fun h => h hslide]
    rfl
  · rw [if_neg hslide, if_pos hslide]
    rfl

/-- **What an attempt at a code inline can be.** -/
theorem formatCode_cases {motive : Attempt (Edit Inline) → Prop} (config : Config)
    (env : Environment) (attr : Attr) (text : String) (stays : motive (pure .unchanged))
    (unknown : ∀ role, motive do
      report (.unknownRole role)
      pure (.replace [applyDefault config (tokenize text)]))
    (words : ∀ f, motive (pure (.replace [emphasize f (tokenize text)])))
    (markup : ∀ role f, motive do
      let ctx ← get
      if ctx.format = config.slideFormat then
        pure (.replace [.raw config.rawFormat ((render config env f text).getD "")])
      else throw (.unsupportedRole role ctx.format config.rawFormat)) :
    motive (formatCode config env attr text) := by
  cases hrole : roleOf? attr with
  | none => exact formatCode_of_none hrole ▸ stays
  | some role =>
    cases hformat : config.role? role with
    | none => exact formatCode_of_unknown hrole hformat ▸ unknown role
    | some f =>
      by_cases hraw : f.isRaw = true
      · exact formatCode_of_isRaw hrole hformat hraw ▸ markup role f
      · exact formatCode_of_not_isRaw hrole hformat hraw ▸ words f

theorem formatCode_run_of_isRaw (hrole : roleOf? attr = some role)
    (hformat : config.role? role = some f) (hraw : f.isRaw) (env : Environment) (text : String)
    (ctx : Context) : (formatCode config env attr text).run.run ctx =
      if ctx.format = config.slideFormat then
        (.ok (.replace [.raw config.rawFormat ((render config env f text).getD "")]), ctx)
      else (.error (.unsupportedRole role ctx.format config.rawFormat), ctx) := by
  rw [formatCode_of_isRaw hrole hformat hraw]
  change (if ctx.format = config.slideFormat then _ else _ : Attempt (Edit Inline)).run.run ctx = _
  split_ifs <;> rfl

end Cases

end Role

/-! ## The role of a node -/

/-- A node has a role if it has the class for roles and its first pair names the role. -/
structure Attr.HasRole (attr : Attr) (role : String) : Prop where
  classed : attr.hasClass "interpreted-text"
  named : ∃ later, attr.pairs = ("role", role) :: later

theorem Attr.hasRole_iff {attr : Attr} {role : String} :
    attr.HasRole role ↔ Role.roleOf? attr = some role := by
  rw [Role.roleOf?]
  split_ifs with hclass
  · rw [firstPair]
    split
    · rename_i role' hpair
      rw [Option.some.injEq]
      obtain ⟨later, hpairs⟩ := List.head?_eq_some_iff.mp hpair
      constructor
      · rintro ⟨-, later', hpairs'⟩
        exact (Prod.mk.inj (List.cons.inj (hpairs.symm.trans hpairs')).1).2
      · rintro rfl
        exact ⟨hclass, later, hpairs⟩
    · rename_i hpair
      exact iff_of_false (fun h => hpair role (List.head?_eq_some_iff.mpr h.named)) nofun
  · exact iff_of_false (fun h => hclass h.classed) nofun

instance (attr : Attr) (role : String) : Decidable (attr.HasRole role) :=
  decidable_of_iff' _ Attr.hasRole_iff

theorem Attr.forall_not_hasRole_iff {attr : Attr} :
    (∀ role, ¬attr.HasRole role) ↔ Role.roleOf? attr = none := by
  simp only [hasRole_iff, Option.eq_none_iff_forall_ne_some, ne_eq]

theorem Role.roleOf?_eq_none {attr : Attr} : roleOf? attr = none ↔
    ¬attr.hasClass "interpreted-text" ∨ attr.pairs = [] ∨
      ∃ key value later, attr.pairs = (key, value) :: later ∧ key ≠ "role" := by
  by_cases hclass : attr.hasClass "interpreted-text" = true
  · rw [roleOf?, if_pos hclass, Attr.firstPair, or_iff_right fun h => h hclass]
    cases attr.pairs with
    | nil => simp
    | cons pair later =>
      obtain ⟨key, value⟩ := pair
      by_cases hkey : key = "role"
      · simp [hkey]
      · simp [hkey]
  · rw [roleOf?, if_neg hclass]
    exact iff_of_true rfl (Or.inl hclass)

/-- The notice of a role that is not in the table. -/
def Diagnostic.unknownRole (role : String) : Diagnostic where
  code := some "B-3-2"
  title := "Unknown role"
  severity := .info
  problem := some ("Unknown role `" ++ role ++ "`, using the default role")
  hints := ["Add the role to the `roles` table of the configuration?"]

/-- The warning of a role that is raw markup, in a format that is not that of slides. -/
def Diagnostic.unsupportedRole (role format rawFormat : String) : Diagnostic where
  code := some "B-3-1"
  title := "Role not supported for this format"
  severity := .warning
  problem := some ("Role `" ++ role ++ "` produces raw " ++ rawFormat ++
    " and cannot be used for format `" ++ format ++ "`")
  hints := []

theorem Issue.diagnostic_unknownRole (role : String) :
    (unknownRole role).diagnostic = .unknownRole role := rfl

/-! ## The default style -/

/-- Small capitals for text without a role of its own, if the table has them for the role `default`;
else such text is strong. -/
def Config.defaultStyle (config : Config) : Style :=
  if config.role? "default" = some .smallCaps then .smallCaps else .strong

namespace Role

variable {config : Config} {env : Environment} {attr : Attr} {text : String} {ctx : Context}

theorem applyDefault_eq (config : Config) (content : List Inline) :
    applyDefault config content = .styled config.defaultStyle content := by
  rw [applyDefault, emphasize, Config.defaultRole, Config.defaultStyle]
  cases config.role? "default" with
  | none => rfl
  | some f => simp

theorem formatTitle_of_hasClass {title : Attr} (h : title.hasClass "title-ref") (config : Config)
    (content : List Inline) :
    formatTitle config title content = .replace [.styled config.defaultStyle content] := by
  rw [formatTitle, if_pos h, applyDefault_eq]

/-! ## The rules -/

/-- What becomes of a code inline, and the context after it. It stays without a role. It gives way
to its text in small capitals or made strong, or to raw markup of its text on slides, and is an
issue elsewhere. It gives way to its text in the default style, and is reported, if its role is not
in the table. -/
inductive Formats (config : Config) (env : Environment) (attr : Attr) (text : String)
    (ctx : Context) : Except Issue (Edit Inline) → Context → Prop
  | stays (hrole : ∀ role, ¬attr.HasRole role) :
      Formats config env attr text ctx (.ok .unchanged) ctx
  | smallCaps {role : String} (hrole : attr.HasRole role)
      (hformat : config.role? role = some .smallCaps) :
      Formats config env attr text ctx (.ok (.replace [.styled .smallCaps (tokenize text)])) ctx
  | strong {role : String} (hrole : attr.HasRole role)
      (hformat : config.role? role = some .strong) :
      Formats config env attr text ctx (.ok (.replace [.styled .strong (tokenize text)])) ctx
  | markup {role : String} {f : RoleFormat} {markup : String} (hrole : attr.HasRole role)
      (hformat : config.role? role = some f) (hraw : f.isRaw)
      (hslide : ctx.format = config.slideFormat)
      (hmarkup : render config env f text = some markup) :
      Formats config env attr text ctx (.ok (.replace [.raw config.rawFormat markup])) ctx
  | unsupported {role : String} {f : RoleFormat} (hrole : attr.HasRole role)
      (hformat : config.role? role = some f) (hraw : f.isRaw)
      (hslide : ctx.format ≠ config.slideFormat) :
      Formats config env attr text ctx (.error (.unsupportedRole role ctx.format config.rawFormat))
        ctx
  | unknown {role : String} (hrole : attr.HasRole role) (hformat : config.role? role = none) :
      Formats config env attr text ctx
        (.ok (.replace [.styled config.defaultStyle (tokenize text)]))
        (ctx.record (.unknownRole role))

theorem Formats.eq_run {result : Except Issue (Edit Inline)} {ctx' : Context}
    (h : Formats config env attr text ctx result ctx') :
    (formatCode config env attr text).run.run ctx = (result, ctx') := by
  cases h with
  | stays hrole =>
    rw [formatCode_of_none (Attr.forall_not_hasRole_iff.mp hrole)]
    rfl
  | smallCaps hrole hformat | strong hrole hformat =>
    rw [formatCode_of_not_isRaw (Attr.hasRole_iff.mp hrole) hformat (by decide)]
    rfl
  | markup hrole hformat hraw hslide hmarkup =>
    rw [formatCode_run_of_isRaw (Attr.hasRole_iff.mp hrole) hformat hraw, if_pos hslide, hmarkup]
    rfl
  | unsupported hrole hformat hraw hslide =>
    rw [formatCode_run_of_isRaw (Attr.hasRole_iff.mp hrole) hformat hraw, if_neg hslide]
  | unknown hrole hformat =>
    rw [formatCode_of_unknown (Attr.hasRole_iff.mp hrole) hformat, applyDefault_eq]
    rfl

theorem exists_formats (config : Config) (env : Environment) (attr : Attr) (text : String)
    (ctx : Context) : ∃ result ctx', Formats config env attr text ctx result ctx' := by
  cases hrole : roleOf? attr with
  | none => exact ⟨_, _, .stays (Attr.forall_not_hasRole_iff.mpr hrole)⟩
  | some role =>
    have hrole := Attr.hasRole_iff.mpr hrole
    cases hformat : config.role? role with
    | none => exact ⟨_, _, .unknown hrole hformat⟩
    | some f =>
      by_cases hraw : f.isRaw = true
      · by_cases hslide : ctx.format = config.slideFormat
        · obtain ⟨markup, hmarkup⟩ :=
            Option.isSome_iff_exists.mp (render_isSome hraw config env text)
          exact ⟨_, _, .markup hrole hformat hraw hslide hmarkup⟩
        · exact ⟨_, _, .unsupported hrole hformat hraw hslide⟩
      · cases f with
        | smallCaps => exact ⟨_, _, .smallCaps hrole hformat⟩
        | strong => exact ⟨_, _, .strong hrole hformat⟩
        | menu | command | filename | answer | animate => exact absurd rfl hraw

/-- **The rules say what becomes of a code inline**, in every context. -/
theorem formats_iff {result : Except Issue (Edit Inline)} {ctx' : Context} :
    Formats config env attr text ctx result ctx' ↔
      (formatCode config env attr text).run.run ctx = (result, ctx') := by
  refine ⟨Formats.eq_run, fun h => ?_⟩
  obtain ⟨result', ctx'', hformats⟩ := exists_formats config env attr text ctx
  obtain ⟨rfl, rfl⟩ := Prod.mk.inj (h.symm.trans hformats.eq_run)
  exact hformats

/-- **A role fails** if it is raw markup and the format is not that of slides. -/
theorem formatCode_eq_error {ctx' : Context} {issue : Issue} :
    (formatCode config env attr text).run.run ctx = (.error issue, ctx') ↔ ctx' = ctx ∧
      ∃ role f, roleOf? attr = some role ∧ config.role? role = some f ∧ f.isRaw ∧
        ctx.format ≠ config.slideFormat ∧
        issue = .unsupportedRole role ctx.format config.rawFormat := by
  rw [← formats_iff]
  constructor
  · intro h
    cases h with
    | unsupported hrole hformat hraw hslide =>
      exact ⟨rfl, _, _, Attr.hasRole_iff.mp hrole, hformat, hraw, hslide, rfl⟩
  · rintro ⟨rfl, role, f, hrole, hformat, hraw, hslide, rfl⟩
    exact .unsupported (Attr.hasRole_iff.mpr hrole) hformat hraw hslide

/-- **Only code without a role stays** in an attempt that succeeds. -/
theorem formatCode_eq_unchanged :
    ((formatCode config env attr text).run.run ctx).1 = .ok .unchanged ↔ roleOf? attr = none := by
  rw [← Attr.forall_not_hasRole_iff]
  constructor
  · intro h
    obtain ⟨result, ctx', hformats⟩ := exists_formats config env attr text ctx
    rw [hformats.eq_run] at h
    cases hformats with
    | stays hrole => exact hrole
    | _ => cases h
  · intro h
    rw [(Formats.stays h).eq_run]

theorem formatCode_pairs {pairs : List (String × String)} (h : pairs.head? = attr.pairs.head?)
    (config : Config) (env : Environment) (text : String) :
    formatCode config env { attr with pairs } text = formatCode config env attr text := by
  have hrole : roleOf? { attr with pairs } = roleOf? attr := by
    rw [roleOf?, roleOf?, Attr.firstPair, Attr.firstPair, h]
    rfl
  rw [formatCode, formatCode, hrole]

theorem formatCode_of_default (hrole : attr.HasRole "default")
    (hformat : config.role? "default" ∈ [none, some .smallCaps, some .strong]) (env : Environment)
    (text : String) (ctx : Context) : ((formatCode config env attr text).run.run ctx).1 =
      .ok (.replace [.styled config.defaultStyle (tokenize text)]) := by
  simp only [List.mem_cons, List.not_mem_nil, or_false] at hformat
  rcases hformat with h | h | h
  · rw [(Formats.unknown hrole h).eq_run]
  · rw [(Formats.smallCaps hrole h).eq_run, Config.defaultStyle, h, if_pos rfl]
  · rw [(Formats.strong hrole h).eq_run, Config.defaultStyle, h, if_neg (by decide)]

theorem defaultStyle_of_isRaw {f : RoleFormat} (hformat : config.role? "default" = some f)
    (hraw : f.isRaw) : config.defaultStyle = .strong := by
  rw [Config.defaultStyle, hformat, if_neg]
  rintro ⟨⟩
  cases hraw

end Role

open Role in
/-- **Roles format their text.** Every code inline stays, is an issue, or gives way to one inline.
It stays if and only if it lacks the class for roles, or its first pair does not name a role; later
pairs make no difference. An unknown role is reported once, and its text becomes what a title would
become. The role `default` makes the same of it unless it is raw markup: then the text is strong. -/
theorem roles_format_their_text (config : Config) (env : Environment) (attr : Attr) (text : String)
    (ctx : Context) :
    let run := (formatCode config env attr text).run.run ctx
    (∀ result ctx', run = (result, ctx') ↔ Formats config env attr text ctx result ctx') ∧
    (run.1 = .ok .unchanged ↔ ¬attr.hasClass "interpreted-text" ∨ attr.pairs = [] ∨
      ∃ key value later, attr.pairs = (key, value) :: later ∧ key ≠ "role") ∧
    (∀ pairs : List (String × String), pairs.head? = attr.pairs.head? →
      (formatCode config env { attr with pairs } text).run.run ctx = run) ∧
    ∀ role, attr.HasRole role → config.role? role = none → ∃ x,
      run = (.ok (.replace [x]), { ctx with
        diagnostics := ctx.diagnostics ++ [.unknownRole role] }) ∧
      (∀ title : Attr, title.hasClass "title-ref" →
        formatTitle config title (tokenize text) = .replace [x]) ∧
      (config.role? "default" ∈ [none, some .smallCaps, some .strong] →
        ∀ env' attr' ctx', attr'.HasRole "default" →
          ((formatCode config env' attr' text).run.run ctx').1 = .ok (.replace [x])) ∧
      ∀ f, config.role? "default" = some f → f.isRaw → x = .styled .strong (tokenize text) := by
  intro run
  refine ⟨fun result ctx' => formats_iff.symm, formatCode_eq_unchanged.trans roleOf?_eq_none,
    fun pairs h => ?_, fun role hrole hformat => ?_⟩
  · rw [formatCode_pairs h]
  · refine ⟨.styled config.defaultStyle (tokenize text), ?_,
      fun title h => formatTitle_of_hasClass h config _, ?_, ?_⟩
    · rw [← Issue.diagnostic_unknownRole]
      exact (Formats.unknown hrole hformat).eq_run
    · exact fun h env' attr' ctx' hdefault => formatCode_of_default hdefault h env' text ctx'
    · intro f hdefault hraw
      rw [defaultStyle_of_isRaw hdefault hraw]

/-- Titles in small capitals, and one role of raw markup. -/
def smallCapsConfig : Config :=
  { Config.default with roles := [("default", .smallCaps), ("menu", .menu)] }

open Role in
/-- A second pair that names a known role does not help an unknown one. -/
theorem roles_format_their_text_keyword :
    let ctx := Context.start "html"
    let x := Inline.styled .smallCaps [.str "a", .space, .str "b"]
    (formatCode smallCapsConfig .empty ⟨"", ["interpreted-text"],
      [("role", "keyword"), ("role", "menu")]⟩ "a b").run.run ctx =
        (.ok (.replace [x]), { ctx with diagnostics := [.unknownRole "keyword"] }) ∧
    formatTitle smallCapsConfig ⟨"", ["title-ref"], []⟩ (tokenize "a b") = .replace [x] ∧
    ((formatCode smallCapsConfig .empty ⟨"", ["interpreted-text"], [("role", "default")]⟩
      "a b").run.run ctx).1 = .ok (.replace [x]) := by
  intro ctx x
  obtain ⟨-, -, -, hunknown⟩ := roles_format_their_text smallCapsConfig .empty
    ⟨"", ["interpreted-text"], [("role", "keyword"), ("role", "menu")]⟩ "a b" ctx
  obtain ⟨y, hrun, htitle, hdefault, -⟩ :=
    hunknown "keyword" ⟨by decide, [("role", "menu")], rfl⟩ (by decide)
  have htitle := htitle ⟨"", ["title-ref"], []⟩ (by decide)
  obtain rfl : x = y := by
    have h : formatTitle smallCapsConfig ⟨"", ["title-ref"], []⟩ (tokenize "a b") = .replace [x] :=
      rfl
    exact List.singleton_inj.mp (Edit.replace.inj (h.symm.trans htitle))
  exact ⟨hrun, htitle, hdefault (by decide) .empty _ ctx ⟨by decide, [], rfl⟩⟩

end DeckFilter
