import DeckFilter.Config.Text
import DeckFilter.Proofs.Entries.Set
import DeckFilter.Proofs.Settings.Written

/-!
# Reading a configuration that was written

A configuration is written as ten settings, each of which sets one of its fields when it is read.

* `Config.texts`, `Config.settings_isWritable`: the texts of a configuration, and its settings;
* `Config.keeping`: a configuration with the default for every key that is left out;
* `written_configurations_are_reread`: configurations, and those of which entries were left out.
-/

namespace DeckFilter

open Settings

/-! ## Values -/

namespace Settings

theorem isWritable_ofText {s : String} (h : OneLine s) : (Scalar.ofText s).IsWritable := ⟨h, nofun⟩

theorem isKey_ofText {s : String} (h : OneLine s) : (Scalar.ofText s).IsKey := ⟨h, rfl⟩

theorem isWritable_word {s : String} (h : OneLine s) (hne : s ≠ "")
    (hplain : allowsPlain s.toList = true) : (Scalar.word s).IsWritable :=
  ⟨h, fun _ => ⟨hne, isPlain_of_allowsPlain hplain⟩⟩

/-- **No text is read back as nothing**: those that spell it are written between quotes. -/
theorem optionalText?_reread (s : String) :
    (Value.scalar (.ofText s)).reread.optionalText? = some (some s) := by
  have hnull : (Scalar.ofText s).reread.isNull = false := by
    rw [Scalar.isNull, Bool.and_eq_false_imp]
    intro hplain
    have hstyle : styleOf s = .plain := eq_of_beq hplain
    have hambiguous := (of_styleOf_eq_plain hstyle).1
    rw [isAmbiguous, Bool.or_eq_false_iff, Bool.or_eq_false_iff] at hambiguous
    exact hambiguous.1.1
  rw [Value.reread, Value.optionalText?, hnull]
  rfl

theorem texts?_reread (ss : List String) :
    (Value.list (ss.map .ofText)).reread.texts? = some ss := by
  rw [Value.reread, Value.texts?, List.map_map, List.map_map]
  exact congrArg some (List.map_id ss)

theorem ofName?_name (f : RoleFormat) : RoleFormat.ofName? f.name = some f := by
  cases f <;> decide

/-- **A table of roles is read back**, in its order. -/
theorem roles?_reread {roles : Entries RoleFormat} (h : (roles.map Prod.fst).Nodup) :
    (Value.table (roles.map fun (role, f) => (.ofText role, .ofText f.name))).reread.roles? =
      some roles := by
  have hread : ∀ rs : Entries RoleFormat, List.mapM
      (fun e : Scalar × Scalar => (RoleFormat.ofName? e.2.text).map fun f => (e.1.text, f))
      ((rs.map fun e => (Scalar.ofText e.1, Scalar.ofText e.2.name)).map fun e =>
        (e.1.reread, e.2.reread)) = some rs := by
    intro rs
    induction rs with
    | nil => rfl
    | cons r rs ih =>
      rw [List.map_cons, List.map_cons, List.mapM_cons, ih]
      change ((RoleFormat.ofName? r.2.name).map fun f => (r.1, f)).bind _ = _
      rw [ofName?_name]
      rfl
  have hroles := congrArg (Option.bind · fun rs => some (Entries.ofList rs)) (hread roles)
  exact hroles.trans (congrArg some (Entries.ofList_of_nodup h))

end Settings

/-! ## Configurations -/

namespace Config

variable (c : Config)

/-- The texts of a configuration. -/
def texts : List String :=
  [c.slideFormat, c.rawFormat] ++ c.slideDecorators ++ c.roles.map Prod.fst ++
    [c.boxColor, c.defaultCodeLanguage] ++ c.debugLog.toList ++ [c.searchPathVar, c.instructorVar]

/-- The default configuration with the settings of another whose keys are kept. -/
def keeping (keep : String → Bool) : Config where
  slideFormat := if keep "slide-format" then c.slideFormat else default.slideFormat
  rawFormat := if keep "raw-format" then c.rawFormat else default.rawFormat
  bulletPointAnimation :=
    if keep "bullet-point-animation" then c.bulletPointAnimation else default.bulletPointAnimation
  slideDecorators := if keep "slide-decorators" then c.slideDecorators else default.slideDecorators
  roles := if keep "roles" then c.roles else default.roles
  boxColor := if keep "box-color" then c.boxColor else default.boxColor
  defaultCodeLanguage :=
    if keep "default-code-language" then c.defaultCodeLanguage else default.defaultCodeLanguage
  debugLog := if keep "debug-log" then c.debugLog else default.debugLog
  searchPathVar := if keep "search-path-var" then c.searchPathVar else default.searchPathVar
  instructorVar := if keep "instructor-var" then c.instructorVar else default.instructorVar

theorem keeping_all : c.keeping (fun _ => true) = c := rfl

/-- The keys of a configuration, in the order they are written in. -/
def keys : List String :=
  ["slide-format", "raw-format", "bullet-point-animation", "slide-decorators", "roles", "box-color",
    "default-code-language", "debug-log", "search-path-var", "instructor-var"]

theorem settings_keys : c.settings.map Prod.fst = keys.map .ofText := rfl

theorem settings_isKey {e : Entry} (he : e ∈ c.settings) : e.1.IsKey := by
  have hkey : e.1 ∈ keys.map .ofText := c.settings_keys ▸ List.mem_map_of_mem he
  obtain ⟨k, hk, heq⟩ := List.mem_map.mp hkey
  have hkeys : ∀ k ∈ keys, OneLine k := by decide +kernel
  exact heq ▸ isKey_ofText (hkeys k hk)

/-- **Every setting of a configuration can be written** if its texts have no line breaks. -/
theorem settings_isWritable (h : ∀ s ∈ c.texts, OneLine s) :
    ∀ e ∈ c.settings, Settings.IsWritable e := by
  have htext (s : String) (hs : s ∈ c.texts) : (Scalar.ofText s).IsWritable :=
    isWritable_ofText (h s hs)
  have hword (s : String) (hs : s ∈ ["true", "false", "null"]) : (Scalar.word s).IsWritable := by
    have hwords : ∀ s ∈ ["true", "false", "null"],
        OneLine s ∧ s ≠ "" ∧ allowsPlain s.toList = true := by decide +kernel
    obtain ⟨hline, hne, hplain⟩ := hwords s hs
    exact isWritable_word hline hne hplain
  have hname (f : RoleFormat) : OneLine f.name := by
    cases f <;> decide +kernel
  have hvalues : ∀ v ∈ c.settings.map Prod.snd, v.IsWritable := by
    simp only [settings, List.map_cons, List.map_nil, List.forall_mem_cons]
    refine ⟨htext _ (by simp [texts]), htext _ (by simp [texts]), ?bulletPointAnimation,
      ?slideDecorators, ?roles, htext _ (by simp [texts]), htext _ (by simp [texts]), ?debugLog,
      htext _ (by simp [texts]), htext _ (by simp [texts]), List.forall_mem_nil _⟩
    case bulletPointAnimation => exact hword _ (by split_ifs <;> decide)
    case slideDecorators =>
      intro x hx
      obtain ⟨s, hs, rfl⟩ := List.mem_map.mp hx
      exact htext s (by simp [texts, hs])
    case roles =>
      intro e he
      obtain ⟨r, hr, rfl⟩ := List.mem_map.mp he
      have hrole : r.1 ∈ c.roles.map Prod.fst := List.mem_map_of_mem hr
      exact ⟨isKey_ofText (h r.1 (by rw [texts]; simp only [List.mem_append]; tauto)),
        isWritable_ofText (hname r.2)⟩
    case debugLog =>
      cases hpath : c.debugLog with
      | none => exact hword _ (by decide)
      | some path => exact htext path (by simp [texts, hpath])
  intro e he
  exact ⟨c.settings_isKey he, hvalues e.2 (List.mem_map_of_mem he)⟩

/-- The settings of a configuration, and what they do to another whether they are kept or not. -/
def steps : List (Entry × (Bool → Config → Config)) :=
  c.settings.zip
    [fun keep d => { d with slideFormat := if keep then c.slideFormat else d.slideFormat },
      fun keep d => { d with rawFormat := if keep then c.rawFormat else d.rawFormat },
      fun keep d => { d with
        bulletPointAnimation := if keep then c.bulletPointAnimation else d.bulletPointAnimation },
      fun keep d => { d with
        slideDecorators := if keep then c.slideDecorators else d.slideDecorators },
      fun keep d => { d with roles := if keep then c.roles else d.roles },
      fun keep d => { d with boxColor := if keep then c.boxColor else d.boxColor },
      fun keep d => { d with
        defaultCodeLanguage := if keep then c.defaultCodeLanguage else d.defaultCodeLanguage },
      fun keep d => { d with debugLog := if keep then c.debugLog else d.debugLog },
      fun keep d => { d with searchPathVar := if keep then c.searchPathVar else d.searchPathVar },
      fun keep d => { d with instructorVar := if keep then c.instructorVar else d.instructorVar }]

/-- **Each setting that is read back sets its field** to what it was, and no other. -/
theorem set_reread (hroles : (c.roles.map Prod.fst).Nodup) :
    ∀ p ∈ c.steps, ∀ d : Config,
      d.set p.1.1.text p.1.2.reread = some (p.2 true d) ∧ p.2 false d = d := by
  have hbool : (Value.scalar (.word
      (if c.bulletPointAnimation then "true" else "false"))).reread.bool? =
      some c.bulletPointAnimation := by
    cases c.bulletPointAnimation <;> rfl
  simp only [steps, settings, List.map_cons, List.map_nil, List.zip_cons_cons, List.zip_nil_left,
    List.forall_mem_cons]
  refine ⟨fun d => ⟨rfl, rfl⟩, fun d => ⟨rfl, rfl⟩, fun d => ⟨?_, rfl⟩, fun d => ⟨?_, rfl⟩,
    fun d => ⟨?_, rfl⟩, fun d => ⟨rfl, rfl⟩, fun d => ⟨rfl, rfl⟩, fun d => ⟨?_, rfl⟩,
    fun d => ⟨rfl, rfl⟩, fun d => ⟨rfl, rfl⟩, List.forall_mem_nil _⟩
  · exact congrArg (Option.map fun b => { d with bulletPointAnimation := b }) hbool
  · exact congrArg (Option.map fun ss => { d with slideDecorators := ss }) (texts?_reread _)
  · exact congrArg (Option.map fun rs => { d with roles := rs }) (roles?_reread hroles)
  · cases c.debugLog with
    | none => rfl
    | some path =>
      exact congrArg (Option.map fun path => { d with debugLog := path })
        (optionalText?_reread path)

theorem foldlM_keep {steps : List (Entry × (Bool → Config → Config))}
    (h : ∀ p ∈ steps, ∀ d : Config,
      d.set p.1.1.text p.1.2.reread = some (p.2 true d) ∧ p.2 false d = d)
    (keep : String → Bool) (d : Config) :
    ((steps.map Prod.fst).filter fun e => keep e.1.text).foldlM
        (fun d e => d.set e.1.text e.2.reread) d =
      some (steps.foldl (fun d p => p.2 (keep p.1.1.text) d) d) := by
  induction steps generalizing d with
  | nil => rfl
  | cons p steps ih =>
    obtain ⟨hp, hrest⟩ := List.forall_mem_cons.mp h
    obtain ⟨hset, hstays⟩ := hp d
    rw [List.map_cons, List.foldl_cons]
    cases hkeep : keep p.1.1.text with
    | true =>
      rw [List.filter_cons, if_pos hkeep, List.foldlM_cons, hset]
      exact ih hrest _
    | false =>
      rw [List.filter_cons, if_neg (by simp [hkeep]), hstays]
      exact ih hrest d

/-- **The settings that are kept are read back**, and the others have their defaults. -/
theorem ofSettings?_keeping (hroles : (c.roles.map Prod.fst).Nodup) (keep : String → Bool) :
    ofSettings? ((c.settings.filter fun e => keep e.1.text).map reread) =
      some (c.keeping keep) := by
  have hkeys : ((((c.settings.filter fun e => keep e.1.text).map reread).map
      (·.1.text))).Nodup := by
    rw [List.map_map]
    refine List.Nodup.sublist (List.filter_sublist.map _) (?_ : (keys).Nodup)
    decide
  rw [ofSettings?, if_pos hkeys, List.foldlM_map]
  exact foldlM_keep (c.set_reread hroles) keep .default

end Config

/-- **A configuration that was written is read back**, whatever its texts look like, with its roles
in their order. If entries of the file are left out, what is read has the defaults in their place.
No text may have a line break, and no role may be named twice. -/
theorem written_configurations_are_reread (c : Config) (hroles : (c.roles.map Prod.fst).Nodup)
    (htexts : ∀ s ∈ c.texts, OneLine s) :
    Config.ofText? c.text = some c ∧
      ∀ keep : String → Bool,
        Config.ofText? (Settings.text (c.settings.filter fun e => keep e.1.text)) =
          some (c.keeping keep) := by
  have hsettings := c.settings_isWritable htexts
  have hkeep (keep : String → Bool) :
      Config.ofText? (Settings.text (c.settings.filter fun e => keep e.1.text)) =
        some (c.keeping keep) := by
    rw [Config.ofText?, Settings.ofText?_text fun e he => hsettings e (List.mem_filter.mp he).1]
    exact c.ofSettings?_keeping hroles keep
  refine ⟨?_, hkeep⟩
  have hall := hkeep fun _ => true
  rwa [List.filter_true, Config.keeping_all] at hall

/-- Texts that would be something else if they were written as they are. -/
def sampleConfig : Config :=
  { Config.default with
    slideFormat := ""
    slideDecorators := ["- t", "1.50", "it's", "[]", " t "]
    roles := [("? term", .strong), ("true", .menu), ("a: b", .answer), ("#", .animate)]
    debugLog := some "null" }

theorem written_configurations_are_reread_sample :
    (sampleConfig.roles.map Prod.fst).Nodup ∧ (∀ s ∈ sampleConfig.texts, OneLine s) ∧
      Config.ofText? sampleConfig.text = some sampleConfig ∧
      Config.ofText? (Settings.text (sampleConfig.settings.filter (·.1.text == "debug-log"))) =
        some { Config.default with debugLog := some "null" } ∧
      Config.ofText? (Settings.text (sampleConfig.settings.filter fun _ => false)) =
        some .default := by
  have hroles : (sampleConfig.roles.map Prod.fst).Nodup := by decide
  have htexts : ∀ s ∈ sampleConfig.texts, OneLine s := by decide +kernel
  obtain ⟨hall, hkeep⟩ := written_configurations_are_reread sampleConfig hroles htexts
  exact ⟨hroles, htexts, hall, hkeep (· == "debug-log"), hkeep fun _ => false⟩

end DeckFilter
