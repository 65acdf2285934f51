import DeckFilter.Proofs.Settings.Keys
import DeckFilter.Settings.Read

/-!
# Reading settings as they were written

The entries of a written table all start in its column, and what belongs to an entry ends with a
line. So a reader that is right about one entry, whatever comes after it, is right about a table.

* `Settings.AtEntry`: what comes after an entry;
* `Settings.Value.IsWritable`, `Settings.Value.reread`: values, and what they are read back as;
* `Settings.ReadsEntry`: a reader is right about an entry;
* `Settings.items_lines`, `Settings.entries_bodies`: lists and tables of any kind;
* `Settings.valueBelow_lines`: values;
* `Settings.ofText?_text`: files.
-/

namespace DeckFilter.Settings

/-- Another entry starts here, or what the entry belongs to is over. -/
structure AtEntry (cs : List Char) : Prop where
  token : AtToken cs
  no_marker : isMarker cs = false
  no_dash : atDash cs = false

theorem atEntry_nil : AtEntry [] := ⟨atToken_nil, rfl, rfl⟩

theorem StartsEntry.atEntry {cs : List Char} (h : StartsEntry cs) : AtEntry cs :=
  ⟨h.token, h.no_marker, h.no_dash⟩

/-! ## Scalars that belong to an entry -/

theorem gapAfter_blank {cs : List Char} (h : AtToken cs) (column : Nat) (leads : Bool) :
    gapAfter column leads (' ' :: cs) = (⟨false, column + 2⟩, cs) := by
  rw [gapAfter, skipGap_blank, skipGap_of_atToken h]

theorem starts_line {s : Scalar} (h : s.IsWritable) (indent n : Nat) (next : List Char) :
    StartsScalar (s.inline indent ++ '\n' :: (pad n ++ next)) :=
  h.starts indent _ (by simp)

section Scalars

variable {s : Scalar} (h : s.IsWritable) (indent : Nat) {n column : Nat} (hn : n ≤ column)
  {next : List Char} (hnext : AtToken next)
include h hn hnext

theorem scalarBelow_line (leads : Bool) :
    scalarBelow column leads (' ' :: (s.inline indent ++ '\n' :: (pad n ++ next))) =
      some (s.reread, ⟨true, n⟩, next) := by
  have hstarts := starts_line h indent n next
  rw [scalarBelow, gapAfter_blank hstarts.token]
  dsimp only
  rw [if_neg (by simp [hstarts.isEmpty_eq, Gap.isBelow]),
    h.read_line indent (Nat.lt_succ_of_le hn) hnext]

theorem key_line : key column (s.inline indent ++ '\n' :: (pad n ++ next)) = none := by
  have hstarts := starts_line h indent n next
  have hread := h.read_line indent (Nat.lt_succ_of_le hn) hnext
  have hused : isKeyText (s.inline indent ++ '\n' :: (pad n ++ next)) next = false := by
    have hline : s.inline indent ++ '\n' :: (pad n ++ next) =
        (s.inline indent ++ '\n' :: pad n) ++ next := by
      rw [List.append_assoc, List.cons_append]
    rw [isKeyText, hline, List.length_append, Nat.add_sub_cancel, List.take_left, List.all_append,
      List.all_cons, Bool.and_eq_false_iff]
    exact Or.inr (by simp [isBreak])
  rw [hstarts.key_eq, shortKey, hread, Option.bind_eq_bind, Option.bind_some]
  dsimp only
  rw [hused]
  rfl

end Scalars

/-! ## Lists -/

theorem items_line {s : Scalar} (h : s.IsWritable) (indent fuel : Nat) {more : List Char}
    (hmore : AtToken more) (hmarker : isMarker more = false) :
    items 0 (fuel + 1) ('-' :: ' ' :: s.line indent ++ more) =
      if atDash more then
        (items 0 fuel more).map fun p => (s.reread :: p.1, p.2)
      else some ([s.reread], ⟨true, 0⟩, more) := by
  have hread : scalarBelow 0 true (' ' :: (s.inline indent ++ '\n' :: more)) =
      some (s.reread, ⟨true, 0⟩, more) := scalarBelow_line h indent (Nat.le_refl 0) hmore true
  have hline : '-' :: ' ' :: s.line indent ++ more =
      '-' :: ' ' :: (s.inline indent ++ '\n' :: more) := by
    rw [h.line_eq, List.cons_append, List.cons_append, List.append_assoc, List.singleton_append]
  rw [hline, items, List.tail_cons, hread, Option.bind_eq_bind, Option.bind_some]
  dsimp only
  rw [if_neg (by simp [isOver])]
  cases hdash : atDash more with
  | false => rw [Bool.and_false, if_neg (by decide), if_neg (by decide)]
  | true =>
    have hempty : more.isEmpty = false := by
      cases more with
      | nil => cases hdash
      | cons c more => rfl
    rw [isNext, hempty, Gap.atMarker, hmarker]
    cases items 0 fuel more with
    | none => rfl
    | some p => rfl

/-- **The items of a list are read back**, in the column of their entry. -/
theorem items_lines {x : Scalar} {xs : List Scalar} (h : ∀ s ∈ x :: xs, s.IsWritable)
    (indent : Nat) {next : List Char} (hnext : AtEntry next) {fuel : Nat}
    (hfuel : xs.length < fuel) :
    items 0 fuel (((x :: xs).flatMap fun s => '-' :: ' ' :: s.line indent) ++ next) =
      some ((x :: xs).map Scalar.reread, ⟨true, 0⟩, next) := by
  induction xs generalizing x fuel with
  | nil =>
    obtain ⟨fuel, rfl⟩ := Nat.exists_eq_add_of_lt hfuel
    rw [List.flatMap_singleton, items_line (h x List.mem_cons_self) indent _ hnext.token
      hnext.no_marker, hnext.no_dash, if_neg (by decide)]
    rfl
  | cons y xs ih =>
    obtain ⟨hx, hxs⟩ := List.forall_mem_cons.mp h
    obtain ⟨fuel, rfl⟩ := Nat.exists_eq_add_of_lt hfuel
    have hrest := ih hxs (show xs.length < (y :: xs).length + fuel by rw [List.length_cons]; omega)
    rw [List.flatMap_cons, List.append_assoc, items_line hx, hrest]
    · rfl
    · exact .cons rfl rfl (by decide) (by decide)
    · rfl

/-! ## Tables -/

/-- A reader is right about an entry, whatever comes after it. -/
structure ReadsEntry {α : Type} (nothing : α)
    (value : Nat → Bool → List Char → Option (α × Gap × List Char)) (column : Nat)
    (body : List Char) (entry : Scalar × α) : Prop where
  starts : ∀ more, StartsEntry (body ++ more)
  read : ∀ n ≤ column, ∀ next, AtEntry next →
    ∃ after, key column (body ++ (pad n ++ next)) = some (entry.1, after) ∧
      entryValue nothing value column after = some (entry.2, ⟨true, n⟩, next)

section Tables

variable {α : Type} {nothing : α}
  {value : Nat → Bool → List Char → Option (α × Gap × List Char)} {column : Nat}

theorem entries_body {body : List Char} {e : Scalar × α}
    (h : ReadsEntry nothing value column body e) (fuel : Nat) {n : Nat} (hn : n ≤ column)
    {next : List Char} (hnext : AtEntry next) :
    entries nothing value column (fuel + 1) (body ++ (pad n ++ next)) =
      if isNext column ⟨true, n⟩ next then
        (entries nothing value column fuel next).map fun p => (e :: p.1, p.2)
      else some ([e], ⟨true, n⟩, next) := by
  obtain ⟨after, hkey, hvalue⟩ := h.read n hn next hnext
  have hover : isOver column ⟨true, n⟩ next = true := by simp [isOver, hn]
  rw [entries, hkey, Option.bind_eq_bind, Option.bind_some]
  dsimp only
  rw [hvalue, Option.bind_eq_bind, Option.bind_some]
  dsimp only
  rw [hover, if_neg (by decide)]
  cases isNext column ⟨true, n⟩ next with
  | false => rfl
  | true =>
    rw [if_pos rfl, if_pos rfl]
    cases entries nothing value column fuel next with
    | none => rfl
    | some p => rfl

/-- **The entries of a table are read back**, one after the other, up to what the table is followed
by. -/
theorem entries_bodies {β : Type} {body : β → List Char} {result : β → Scalar × α} {x : β}
    {xs : List β} (h : ∀ e ∈ x :: xs, ReadsEntry nothing value column (body e) (result e)) {n : Nat}
    {next : List Char} (hnext : AtEntry next) (hn : n < column ∨ n = column ∧ next = [])
    {fuel : Nat} (hfuel : xs.length < fuel) :
    entries nothing value column fuel
        (body x ++ ((xs.flatMap fun e => pad column ++ body e) ++ (pad n ++ next))) =
      some ((x :: xs).map result, ⟨true, n⟩, next) := by
  induction xs generalizing x fuel with
  | nil =>
    obtain ⟨fuel, rfl⟩ := Nat.exists_eq_add_of_lt hfuel
    have hend : isNext column ⟨true, n⟩ next = false := by
      rcases hn with hn | ⟨-, rfl⟩
      · have hcolumn : (n == column) = false := beq_false_of_ne (Nat.ne_of_lt hn)
        rw [isNext, hcolumn, Bool.and_false, Bool.false_and]
      · rfl
    rw [List.flatMap_nil, List.nil_append,
      entries_body (h x List.mem_cons_self) _ (by omega) hnext, hend, if_neg (by decide)]
    rfl
  | cons y xs ih =>
    obtain ⟨hx, hxs⟩ := List.forall_mem_cons.mp h
    obtain ⟨fuel, rfl⟩ := Nat.exists_eq_add_of_lt hfuel
    have hrest := ih hxs (show xs.length < (y :: xs).length + fuel by rw [List.length_cons]; omega)
    have hstarts := (hxs y List.mem_cons_self).starts
      ((xs.flatMap fun e => pad column ++ body e) ++ (pad n ++ next))
    have hline : ((y :: xs).flatMap fun e => pad column ++ body e) ++ (pad n ++ next) =
        pad column ++ (body y ++
          ((xs.flatMap fun e => pad column ++ body e) ++ (pad n ++ next))) := by
      simp only [List.flatMap_cons, List.append_assoc]
    generalize body y ++ ((xs.flatMap fun e => pad column ++ body e) ++ (pad n ++ next)) =
      more at hrest hstarts hline
    have hnext : isNext column ⟨true, column⟩ more = true := by
      rw [isNext, hstarts.isEmpty_eq, Gap.atMarker, hstarts.no_marker]
      simp
    rw [hline, entries_body hx _ (Nat.le_refl column) hstarts.atEntry, hnext, if_pos rfl, hrest]
    rfl

end Tables

/-! ## Values -/

namespace Value

/-- Every scalar of a value can be written on one line. -/
def IsWritable : Value → Prop
  | .scalar s => s.IsWritable
  | .list items => ∀ s ∈ items, s.IsWritable
  | .table entries => ∀ e ∈ entries, e.1.IsKey ∧ e.2.IsWritable

/-- What a value is read back as. -/
def reread : Value → Value
  | .scalar s => .scalar s.reread
  | .list items => .list (items.map Scalar.reread)
  | .table entries => .table (entries.map fun e => (e.1.reread, e.2.reread))

end Value

theorem length_le_flatMap {α β : Type} {f : α → List β} (h : ∀ x, f x ≠ []) (xs : List α) :
    xs.length ≤ (xs.flatMap f).length := by
  induction xs with
  | nil => exact Nat.zero_le _
  | cons x xs ih =>
    have hx := List.length_pos_of_ne_nil (h x)
    rw [List.flatMap_cons, List.length_append, List.length_cons]
    omega

/-- An entry of a table, from its first character on. -/
def entryBody (indent : Nat) (e : Scalar × Scalar) : List Char :=
  keyBody indent e.1 ++ ' ' :: e.2.line (indent + indentStep)

theorem entryBody_reads {e : Scalar × Scalar} (hk : e.1.IsKey) (hv : e.2.IsWritable)
    (column : Nat) : ReadsEntry .nothing scalarBelow column (entryBody column e)
      (e.1.reread, e.2.reread) where
  starts more := by
    rw [entryBody, List.append_assoc]
    exact hk.keyBody_starts column _
  read n hn next hnext := by
    rw [entryBody, List.append_assoc, hk.key_keyBody column (by rfl), hv.line_eq]
    refine ⟨_, rfl, ?_⟩
    rw [entryValue, List.cons_append, List.append_assoc, List.singleton_append]
    exact scalarBelow_line hv _ hn hnext.token _

theorem valueBelow_inline {cs : List Char} (htoken : AtToken cs) (hempty : cs.isEmpty = false)
    (hdash : atDash cs = false) (hkey : key 2 cs = none) (leads : Bool) :
    valueBelow 0 leads (' ' :: cs) = inlineValue 0 cs := by
  rw [valueBelow, gapAfter_blank htoken]
  dsimp only
  rw [if_neg (by simp [hempty, Gap.atMarker]), if_neg (by simp [hdash]),
    if_neg (by simp [Gap.isBelow]), if_neg (by simp [hkey])]

theorem valueBelow_brackets {v : Value} (h : v = .list [] ∨ v = .table []) (leads : Bool)
    {next : List Char} (hnext : AtToken next) :
    valueBelow 0 leads (v.lines ++ next) = some (v, ⟨true, 0⟩, next) := by
  have hgap : skipGap false true false .none ('\n' :: next) = (⟨true, 0⟩, next) :=
    skipGap_newline hnext true .none 0
  rcases h with rfl | rfl
  · change valueBelow 0 leads (' ' :: '[' :: ']' :: '\n' :: next) = _
    rw [valueBelow_inline (.cons rfl rfl (by decide) (by decide)) rfl rfl rfl]
    exact congrArg (fun p => some (Value.list [], p)) hgap
  · change valueBelow 0 leads (' ' :: '\x7b' :: '\x7d' :: '\n' :: next) = _
    rw [valueBelow_inline (.cons rfl rfl (by decide) (by decide)) rfl rfl rfl]
    exact congrArg (fun p => some (Value.table [], p)) hgap

theorem valueBelow_list {x : Scalar} {xs : List Scalar} (h : ∀ s ∈ x :: xs, s.IsWritable)
    (leads : Bool) {next : List Char} (hnext : AtEntry next) :
    valueBelow 0 leads ((Value.list (x :: xs)).lines ++ next) =
      some ((Value.list (x :: xs)).reread, ⟨true, 0⟩, next) := by
  generalize hcs : ((x :: xs).flatMap fun s => '-' :: ' ' :: s.line indentStep) ++ next = cs
  have hlines : (Value.list (x :: xs)).lines ++ next = '\n' :: cs := by
    rw [← hcs]
    rfl
  have hdash : ∃ rest, cs = '-' :: ' ' :: rest := by
    rw [← hcs, List.flatMap_cons]
    exact ⟨_, rfl⟩
  have hgap : gapAfter 0 leads ('\n' :: cs) = (⟨true, 0⟩, cs) := by
    obtain ⟨rest, rfl⟩ := hdash
    exact skipGap_newline (.cons rfl rfl (by decide) (by decide)) (!leads) _ 0
  have hlength : xs.length < cs.length + 1 := by
    have hlength := length_le_flatMap (f := fun s => '-' :: ' ' :: Scalar.line indentStep s)
      (fun s => List.cons_ne_nil _ _) (x :: xs)
    rw [← hcs, List.length_append]
    rw [List.length_cons] at hlength
    omega
  have hitems := items_lines h indentStep hnext hlength
  rw [hcs] at hitems
  rw [hlines, valueBelow, hgap]
  obtain ⟨rest, rfl⟩ := hdash
  dsimp only
  rw [if_neg (by simp [Gap.atMarker, isMarker]), if_pos (by simp [atDash, atGap, isBlank]),
    listBelow, hitems]
  rfl

theorem valueBelow_table {e : Scalar × Scalar} {es : List (Scalar × Scalar)}
    (h : ∀ x ∈ e :: es, x.1.IsKey ∧ x.2.IsWritable) (leads : Bool) {next : List Char}
    (hnext : AtEntry next) :
    valueBelow 0 leads ((Value.table (e :: es)).lines ++ next) =
      some ((Value.table (e :: es)).reread, ⟨true, 0⟩, next) := by
  generalize hcs : entryBody indentStep e ++
    ((es.flatMap fun e => pad indentStep ++ entryBody indentStep e) ++ next) = cs
  have htext : (e :: es).flatMap (entryText indentStep) =
      (e :: es).flatMap fun e => pad indentStep ++ entryBody indentStep e := by
    refine List.flatMap_congr fun x hx => ?_
    rw [entryText, (h x hx).1.keyText_eq, entryBody, List.append_assoc]
  have hlines : (Value.table (e :: es)).lines ++ next = '\n' :: (pad indentStep ++ cs) := by
    change '\n' :: ((e :: es).flatMap (entryText indentStep) ++ next) = _
    rw [htext, List.flatMap_cons, ← hcs, List.append_assoc, List.append_assoc]
  have hstarts : StartsEntry cs := by
    rw [← hcs]
    exact (entryBody_reads (h e List.mem_cons_self).1 (h e List.mem_cons_self).2 _).starts _
  have hgap : gapAfter 0 leads ('\n' :: (pad indentStep ++ cs)) = (⟨true, indentStep⟩, cs) :=
    skipGap_newline hstarts.token (!leads) _ indentStep
  have hkey : (key indentStep cs).isSome = true := by
    rw [← hcs, entryBody, List.append_assoc, (h e List.mem_cons_self).1.key_keyBody _ (by rfl)]
    rfl
  have hlength : es.length < cs.length + 1 := by
    have hlength := length_le_flatMap (f := fun e => pad indentStep ++ entryBody indentStep e)
      (fun e => List.cons_ne_nil _ _) es
    rw [← hcs, List.length_append, List.length_append]
    omega
  have hentries : entries .nothing scalarBelow indentStep (cs.length + 1) cs =
      some ((e :: es).map fun e => (e.1.reread, e.2.reread), ⟨true, 0⟩, next) := by
    rw [← hcs] at hlength ⊢
    exact entries_bodies (fun x hx => entryBody_reads (h x hx).1 (h x hx).2 indentStep) hnext
      (n := 0) (Or.inl (by decide)) hlength
  rw [hlines, valueBelow, hgap]
  dsimp only
  rw [if_neg (by simp [hstarts.isEmpty_eq, Gap.atMarker, indentStep]),
    if_neg (by simp [hstarts.no_dash]), if_neg (by simp [Gap.isBelow, indentStep]),
    if_pos (by simp [hkey]), table, hentries]
  rfl

/-- **A value is read back**, whatever setting comes after it. -/
theorem valueBelow_lines {v : Value} (h : v.IsWritable) (leads : Bool) {next : List Char}
    (hnext : AtEntry next) :
    valueBelow 0 leads (v.lines ++ next) = some (v.reread, ⟨true, 0⟩, next) := by
  cases v with
  | scalar s =>
    have hs : s.IsWritable := h
    have hstarts := starts_line hs indentStep 0 next
    have hlines : (Value.scalar s).lines ++ next =
        ' ' :: (s.inline indentStep ++ '\n' :: (pad 0 ++ next)) := by
      change ' ' :: s.line indentStep ++ next = _
      rw [hs.line_eq, List.cons_append, List.append_assoc]
      rfl
    rw [hlines, valueBelow_inline hstarts.token hstarts.isEmpty_eq hstarts.no_dash
      (key_line hs indentStep (Nat.zero_le 2) hnext.token), inlineValue, hstarts.no_bracket,
      if_neg (by decide), hs.read_line indentStep Nat.one_pos hnext.token]
    rfl
  | list items =>
    cases items with
    | nil => exact valueBelow_brackets (Or.inl rfl) leads hnext.token
    | cons x xs => exact valueBelow_list h leads hnext
  | table entries =>
    cases entries with
    | nil => exact valueBelow_brackets (Or.inr rfl) leads hnext.token
    | cons e es => exact valueBelow_table h leads hnext

/-! ## Files -/

/-- A setting that can be written. -/
structure IsWritable (e : Entry) : Prop where
  key : e.1.IsKey
  value : e.2.IsWritable

/-- What a setting is read back as. -/
def reread (e : Entry) : Entry := (e.1.reread, e.2.reread)

theorem atGap_lines (v : Value) (more : List Char) : atGap (v.lines ++ more) = true := by
  cases v with
  | scalar s => rfl
  | list items => cases items <;> rfl
  | table entries => cases entries <;> rfl

theorem settingText_eq {e : Entry} (h : IsWritable e) :
    settingText e = keyBody 0 e.1 ++ e.2.lines := by
  rw [settingText, h.key.keyText_eq]
  rfl

theorem settingText_reads {e : Entry} (h : IsWritable e) :
    ReadsEntry (.scalar .nothing) valueBelow 0 (settingText e) (reread e) where
  starts more := by
    rw [settingText_eq h, List.append_assoc]
    exact h.key.keyBody_starts 0 _
  read n hn next hnext := by
    obtain rfl := Nat.le_zero.mp hn
    rw [settingText_eq h, List.append_assoc, h.key.key_keyBody 0 (atGap_lines _ _)]
    exact ⟨_, rfl, valueBelow_lines h.value _ hnext⟩

/-! ## Characters of files -/

/-- A character that a file of settings may hold. -/
def InFile (c : Char) : Prop := c = '\n' ∨ isWritten c = true

theorem inFile_pad (indent : Nat) : ∀ c ∈ pad indent, InFile c := by
  intro c hc
  rw [List.eq_of_mem_replicate hc]
  exact Or.inr rfl

theorem inFile_ascii {cs : List Char} (h : cs.all (fun c => c == '\n' || isWritten c) = true) :
    ∀ c ∈ cs, InFile c := by
  intro c hc
  rcases Bool.or_eq_true _ _ ▸ List.all_eq_true.mp h c hc with hc | hc
  · exact Or.inl (eq_of_beq hc)
  · exact Or.inr hc

theorem inFile_line {s : Scalar} (h : s.IsWritable) (indent : Nat) :
    ∀ c ∈ s.line indent, InFile c := by
  intro c hc
  rw [h.line_eq, List.mem_append, List.mem_singleton] at hc
  exact hc.symm.imp_right h.mem_inline

theorem inFile_keyText {k : Scalar} (h : k.IsKey) (indent : Nat) :
    ∀ c ∈ keyText indent k, InFile c := by
  rw [keyText]
  split_ifs
  · simp only [List.forall_mem_append, List.forall_mem_singleton]
    exact ⟨⟨inFile_pad _, fun c hc => Or.inr (mem_inlineText h.oneLine hc)⟩, Or.inr rfl⟩
  · simp only [List.forall_mem_append]
    exact ⟨⟨⟨⟨inFile_pad _, inFile_ascii rfl⟩, inFile_line h.isWritable _⟩, inFile_pad _⟩,
      inFile_ascii rfl⟩

theorem inFile_lines {v : Value} (h : v.IsWritable) : ∀ c ∈ v.lines, InFile c := by
  cases v with
  | scalar s => exact List.forall_mem_cons.mpr ⟨Or.inr rfl, inFile_line h _⟩
  | list items =>
    cases items with
    | nil => exact inFile_ascii rfl
    | cons x xs =>
      refine List.forall_mem_cons.mpr ⟨Or.inl rfl, fun c hc => ?_⟩
      obtain ⟨s, hs, hc⟩ := List.mem_flatMap.mp hc
      simp only [List.mem_cons] at hc
      rcases hc with rfl | rfl | hc
      · exact Or.inr rfl
      · exact Or.inr rfl
      · exact inFile_line (h s hs) _ c hc
  | table entries =>
    cases entries with
    | nil => exact inFile_ascii rfl
    | cons e es =>
      refine List.forall_mem_cons.mpr ⟨Or.inl rfl, fun c hc => ?_⟩
      obtain ⟨x, hx, hc⟩ := List.mem_flatMap.mp hc
      rw [entryText, List.mem_append, List.mem_cons] at hc
      rcases hc with hc | rfl | hc
      · exact inFile_keyText (h x hx).1 _ c hc
      · exact Or.inr rfl
      · exact inFile_line (h x hx).2 _ c hc

theorem inFile_text {es : List Entry} (h : ∀ e ∈ es, IsWritable e) :
    ∀ c ∈ es.flatMap settingText, InFile c := by
  intro c hc
  obtain ⟨e, he, hc⟩ := List.mem_flatMap.mp hc
  rcases List.mem_append.mp hc with hc | hc
  · exact inFile_keyText (h e he).key _ c hc
  · exact inFile_lines (h e he).value c hc

theorem normalize_eq {cs : List Char} (h : ∀ c ∈ cs, InFile c) : normalize cs = cs := by
  induction cs with
  | nil => rfl
  | cons c cs ih =>
    obtain ⟨hc, hcs⟩ := List.forall_mem_cons.mp h
    have hreturn : c ≠ '\r' := by
      rintro rfl
      rcases hc with hc | hc
      · exact absurd hc (by decide)
      · exact absurd hc (by decide)
    have hnext : c ≠ '\u0085' := by
      rintro rfl
      rcases hc with hc | hc
      · exact absurd hc (by decide)
      · exact absurd hc (by decide)
    rw [normalize, ih hcs, if_neg (by simp [hreturn, hnext])]
    intro cs' hc _
    exact hreturn hc

theorem isAllowed_of_inFile {c : Char} (h : InFile c) : isAllowed c = true := by
  rcases h with rfl | h
  · rfl
  · rw [isWritten, Bool.and_eq_true] at h
    exact h.1

theorem colon_mem_keyText (indent : Nat) (k : Scalar) : ':' ∈ keyText indent k := by
  rw [keyText]
  split_ifs
  · exact List.mem_append_right _ List.mem_cons_self
  · exact List.mem_append_right _ List.mem_cons_self

/-! ## Files -/

/-- **The settings of a file are read back**, each with its key and its value, in their order. -/
theorem ofText?_text {es : List Entry} (h : ∀ e ∈ es, IsWritable e) :
    ofText? (text es) = some (es.map reread) := by
  cases es with
  | nil => rfl
  | cons e es =>
    generalize hcs : (e :: es).flatMap settingText = cs
    have hfile : ∀ c ∈ cs, InFile c := hcs ▸ inFile_text h
    have hspace : cs.all Text.isSpace = false := by
      rw [← Bool.not_eq_true, List.all_eq_true]
      intro hall
      have hcolon : ':' ∈ cs := by
        rw [← hcs, List.flatMap_cons, settingText]
        exact List.mem_append_left _ (List.mem_append_left _ (colon_mem_keyText 0 e.1))
      exact absurd (hall ':' hcolon) (by decide)
    have hallowed : cs.all isAllowed = true :=
      List.all_eq_true.mpr fun c hc => isAllowed_of_inFile (hfile c hc)
    have hstarts : StartsEntry cs := by
      rw [← hcs, List.flatMap_cons]
      exact (settingText_reads (h e List.mem_cons_self)).starts _
    have hlength : es.length < cs.length + 1 := by
      have hlength := length_le_flatMap (f := settingText) (fun e heq => by
        have hcolon := colon_mem_keyText 0 e.1
        rw [(List.append_eq_nil_iff.mp heq).1] at hcolon
        cases hcolon) (e :: es)
      rw [hcs, List.length_cons] at hlength
      omega
    have htable : table (.scalar .nothing) valueBelow 0 cs =
        some ((e :: es).map reread, ⟨true, 0⟩, []) := by
      have hentries := entries_bodies (fun x hx => settingText_reads (h x hx)) atEntry_nil (n := 0)
        (Or.inr ⟨rfl, rfl⟩) hlength
      have htail : settingText e ++
          ((es.flatMap fun e => pad 0 ++ settingText e) ++ (pad 0 ++ [])) = cs := by
        rw [← hcs, List.flatMap_cons, ← List.append_nil (es.flatMap settingText)]
        rfl
      rw [htail] at hentries
      exact hentries
    rw [ofText?, text, String.toList_ofList, hcs]
    dsimp only
    rw [hspace, if_neg (by decide), hallowed, if_neg (by decide), normalize_eq hfile,
      skipGap_of_atToken hstarts.token]
    dsimp only
    rw [Gap.atMarker, hstarts.no_marker, if_neg (by simp), document, Gap.atMarker,
      hstarts.no_marker, hstarts.isEmpty_eq, if_neg (by simp)]
    have hroot : root .lineStart cs = table (.scalar .nothing) valueBelow 0 cs := by
      unfold root
      split
      · exact absurd hstarts.no_bracket Bool.noConfusion
      · rfl
    rw [hroot, htable]
    rfl

end DeckFilter.Settings
