import DeckFilter.Json.Parse
import DeckFilter.Json.Text
import DeckFilter.Proofs.Json.WellFormed
import DeckFilter.Proofs.Text.Digits
import Mathlib.Data.List.TakeWhile

/-!
# Reading what was printed

A well-formed value that nests no deeper than the limit is read back from its text, if its binary64
numbers are, each on its own.

* `Json.unquote_flatMap_escape`: strings;
* `Json.Local`, `Json.literal_local`: a literal is read the same whatever ends it;
* `Json.Number.Rereads`, `Json.doubles`: numbers that are read back, and those in a value;
* `Json.value_chars`, `Json.parse?_text`: values.
-/

namespace DeckFilter

namespace Json

/-! ## Strings -/

theorem hexQuad_hexDigit : ∀ n < 32,
    hexQuad '0' '0' (hexDigit (n / 16)) (hexDigit n) = some n := by
  decide

theorem unquote_unicode {a b c d x : Char} (cs : List Char)
    (h : (hexQuad a b c d).bind ofUnit = some x) :
    unquote ('\\' :: 'u' :: a :: b :: c :: d :: cs) =
      (unquote cs).map fun p => (x :: p.1, p.2) := by
  rw [unquote.eq_def]
  simp only [h]

theorem unquote_short {c x : Char} (cs : List Char) (hc : c ≠ 'u') (h : shortEscape c = some x) :
    unquote ('\\' :: c :: cs) = (unquote cs).map fun p => (x :: p.1, p.2) := by
  rw [unquote, h]
  · cases unquote cs <;> rfl
  · intro a b c' d cs' e
    exact absurd e hc

theorem unquote_plain {c : Char} (cs : List Char) (hquote : c ≠ '"') (hslash : c ≠ '\\')
    (hcontrol : ¬ c.toNat < 32) :
    unquote (c :: cs) = (unquote cs).map fun p => (c :: p.1, p.2) := by
  rw [unquote, if_neg hcontrol]
  all_goals simp_all

theorem unquote_escape (c : Char) (cs : List Char) :
    unquote (escape c ++ cs) = (unquote cs).map fun p => (c :: p.1, p.2) := by
  unfold escape
  split_ifs with h₁ h₂ h₃ h₄ h₅ h₆ h₇ h₈
  · subst h₁
    exact unquote_short cs (by decide) rfl
  · subst h₂
    exact unquote_short cs (by decide) rfl
  · subst h₃
    exact unquote_short cs (by decide) rfl
  · subst h₄
    exact unquote_short cs (by decide) rfl
  · subst h₅
    exact unquote_short cs (by decide) rfl
  · subst h₆
    exact unquote_short cs (by decide) rfl
  · subst h₇
    exact unquote_short cs (by decide) rfl
  · refine unquote_unicode cs ?_
    have hunit : ¬ (0xD800 ≤ c.toNat ∧ c.toNat < 0xE000) := by omega
    rw [hexQuad_hexDigit c.toNat h₈, Option.bind_some, ofUnit, if_neg hunit, Char.ofNat_toNat]
  · exact unquote_plain cs h₁ h₂ h₈

/-- **A quoted string is read back.** -/
theorem unquote_flatMap_escape (rest : List Char) : ∀ cs : List Char,
    unquote (cs.flatMap escape ++ '"' :: rest) = some (cs, rest)
  | [] => by rw [List.flatMap_nil, List.nil_append, unquote]
  | c :: cs => by
    rw [List.flatMap_cons, List.append_assoc, unquote_escape, unquote_flatMap_escape rest cs]
    rfl

theorem quote_append (s : String) (rest : List Char) :
    quote s ++ rest = '"' :: (s.toList.flatMap escape ++ '"' :: rest) := by
  simp [quote]

/-! ## Literals -/

/-- No literal goes on with this text. -/
def Terminated (rest : List Char) : Prop :=
  ∀ c ∈ rest.head?, c.isDigit = false ∧ c ≠ '.' ∧ c ≠ 'e' ∧ c ≠ 'E'

/-- What is read from a text is read from it whatever ends it. -/
def Local {α : Type} (f : List Char → Option (α × List Char)) : Prop :=
  ∀ ⦃cs rest : List Char⦄ ⦃x : α⦄, f cs = some (x, rest) →
    ∀ ⦃more : List Char⦄, Terminated more → f (cs ++ more) = some (x, rest ++ more)

theorem Local.pure {α : Type} (x : α) : Local fun cs => some (x, cs) := by
  intro cs rest y h more hmore
  cases h
  rfl

theorem Local.map {α β : Type} {f : List Char → Option (α × List Char)} (hf : Local f) (g : α → β) :
    Local fun cs => (f cs).map fun p => (g p.1, p.2) := by
  intro cs rest y h more hmore
  obtain ⟨⟨x, rest'⟩, hx, h⟩ := Option.map_eq_some_iff.mp h
  obtain ⟨rfl, rfl⟩ := Prod.mk.inj h
  exact Option.map_eq_some_iff.mpr ⟨(x, rest' ++ more), hf hx hmore, rfl⟩

theorem Local.bind {α β : Type} {f : List Char → Option (α × List Char)}
    {g : α → List Char → Option (β × List Char)} (hf : Local f) (hg : ∀ x, Local (g x)) :
    Local fun cs => (f cs).bind fun p => g p.1 p.2 := by
  intro cs rest y h more hmore
  obtain ⟨⟨x, rest'⟩, hx, h⟩ := Option.bind_eq_some_iff.mp h
  exact Option.bind_eq_some_iff.mpr ⟨(x, rest' ++ more), hf hx hmore, hg x h hmore⟩

theorem Terminated.takeWhile {more : List Char} (h : Terminated more) :
    more.takeWhile Char.isDigit = [] ∧ more.dropWhile Char.isDigit = more := by
  cases more with
  | nil => exact ⟨rfl, rfl⟩
  | cons c more =>
    have hc : c.isDigit = false := (h c rfl).1
    exact ⟨by rw [List.takeWhile_cons, hc]; rfl, by rw [List.dropWhile_cons, hc]; rfl⟩

theorem Terminated.digits {more : List Char} (h : Terminated more) (cs : List Char) :
    Text.digits (cs ++ more) = ((Text.digits cs).1, (Text.digits cs).2 ++ more) := by
  induction cs with
  | nil =>
    rw [List.nil_append, Text.digits, h.takeWhile.1, h.takeWhile.2]
    rfl
  | cons c cs ih =>
    obtain ⟨htake, hdrop⟩ := Prod.mk.inj ih
    by_cases hc : c.isDigit
    · simp only [Text.digits, List.cons_append, List.takeWhile_cons, List.dropWhile_cons, hc,
        if_true, List.map_cons, htake, hdrop]
    · simp [Text.digits, hc]

theorem someDigits_local : Local someDigits := by
  intro cs rest ds h more hmore
  rw [someDigits] at h ⊢
  rw [hmore.digits]
  generalize Text.digits cs = p at h ⊢
  obtain ⟨ds', rest'⟩ := p
  cases ds' with
  | nil => cases h
  | cons d ds' =>
    cases h
    rfl

theorem wholeDigits_local : Local wholeDigits := by
  intro cs rest ds h more hmore
  rw [wholeDigits] at h ⊢
  rw [hmore.digits]
  generalize Text.digits cs = p at h ⊢
  obtain ⟨ds', rest'⟩ := p
  rcases ds' with _ | ⟨_ | d, _ | ⟨e, ds'⟩⟩ <;> cases h <;> rfl

theorem append_ne_cons {c : Char} {cs more : List Char} (h : ∀ cs', cs = c :: cs' → False)
    (hmore : cs = [] → more.head? ≠ some c) : ∀ cs', cs ++ more = c :: cs' → False := by
  intro cs' e
  cases cs with
  | nil => exact hmore rfl (by rw [← List.nil_append more, e, List.head?_cons])
  | cons d cs => exact h cs (by rw [(List.cons.inj e).1])

theorem fractionDigits_local : Local fractionDigits := by
  intro cs rest ds h more hmore
  unfold fractionDigits at h
  split at h
  · exact someDigits_local.map some h hmore
  · rename_i hpoint
    cases h
    rw [fractionDigits]
    exact append_ne_cons hpoint fun _ hhead => (hmore '.' hhead).2.1 rfl

theorem signedDigits_local : Local signedDigits := by
  intro cs rest e h more hmore
  unfold signedDigits at h
  split at h
  · exact someDigits_local.map (fun ds => (Text.ofDigits 10 ds : Int)) h hmore
  · exact someDigits_local.map (fun ds => -(Text.ofDigits 10 ds : Int)) h hmore
  · rename_i hplus hminus
    have hne : cs ≠ [] := by
      rintro rfl
      cases h
    rw [signedDigits]
    · exact someDigits_local.map (fun ds => (Text.ofDigits 10 ds : Int)) h hmore
    · exact append_ne_cons hplus fun hcs => absurd hcs hne
    · exact append_ne_cons hminus fun hcs => absurd hcs hne

theorem exponentPart_local : Local exponentPart := by
  intro cs rest e h more hmore
  unfold exponentPart at h
  split at h
  · exact signedDigits_local.map some h hmore
  · exact signedDigits_local.map some h hmore
  · rename_i hlower hupper
    cases h
    rw [exponentPart]
    · exact append_ne_cons hlower fun _ hhead => (hmore 'e' hhead).2.2.1 rfl
    · exact append_ne_cons hupper fun _ hhead => (hmore 'E' hhead).2.2.2 rfl

theorem unsignedLiteral_local (negative : Bool) : Local (unsignedLiteral negative) :=
  wholeDigits_local.bind fun whole => fractionDigits_local.bind fun fraction =>
    exponentPart_local.bind fun exponent =>
      Local.pure (Literal.mk negative whole fraction exponent)

/-- **A literal is read the same whatever ends it.** -/
theorem literal_local : Local literal := by
  intro cs rest l h more hmore
  unfold literal at h
  split at h
  · exact unsignedLiteral_local true h hmore
  · rename_i hminus
    have hne : cs ≠ [] := by
      rintro rfl
      cases h
    rw [literal]
    · exact unsignedLiteral_local false h hmore
    · exact append_ne_cons hminus fun hcs => absurd hcs hne

theorem literal_eq_none {c : Char} {cs : List Char} (hdigit : c.isDigit = false)
    (hminus : c ≠ '-') : literal (c :: cs) = none := by
  rw [literal]
  · simp [unsignedLiteral, wholeDigits, Text.digits, hdigit]
  · intro cs' e
    exact hminus (List.cons.inj e).1

theorem skipBlanks_eq_of_literal {cs : List Char} (h : literal cs ≠ none) : skipBlanks cs = cs := by
  cases cs with
  | nil => rfl
  | cons c cs =>
    have hblank : isBlank c = false := by
      by_contra hblank
      simp only [isBlank, Bool.not_eq_false, Bool.or_eq_true, beq_iff_eq] at hblank
      rcases hblank with ((rfl | rfl) | rfl) | rfl <;>
        exact h (literal_eq_none (by decide) (by decide))
    rw [skipBlanks, List.dropWhile_cons, hblank]
    rfl

/-! ## Integers -/

theorem wholeDigits_eq {cs rest : List Char} {ds : List Nat} (h : Text.digits cs = (ds, rest))
    (hsome : ds ≠ []) (hzero : ∀ d ∈ ds.head?, d = 0 → ds.length = 1) :
    wholeDigits cs = some (ds, rest) := by
  rw [wholeDigits, h]
  rcases ds with _ | ⟨_ | d, _ | ⟨e, ds⟩⟩
  · exact absurd rfl hsome
  · rfl
  · exact absurd (hzero 0 rfl rfl) (by simp)
  · rfl
  · rfl

theorem wholeDigits_toDigits (n : Nat) : ∃ ds,
    wholeDigits (Nat.toDigits 10 n) = some (ds, []) ∧ Text.ofDigits 10 ds = n := by
  have h := Text.isPrinted_toDigits n
  refine ⟨_, wholeDigits_eq (Text.digits_of_forall h.ascii) ?_ fun d hd hzero => ?_, ?_⟩
  · simp
  · rw [List.head?_map] at hd
    obtain ⟨c, hc, rfl⟩ := Option.map_eq_some_iff.mp hd
    have hchar := (Text.digitChar_of_isDigit (h.ascii c (List.mem_of_mem_head? hc))).2
    rw [hzero] at hchar
    obtain rfl : '0' = c := hchar
    rw [h.no_zero_first hc]
    rfl
  · rw [Text.ofDigits_eq, h.value]

theorem le_foldl_digits : ∀ (ds : List Nat) (n : Nat), n ≤ ds.foldl (fun m d => m * 10 + d) n
  | [], n => Nat.le_refl n
  | d :: ds, n => Nat.le_trans (by omega) (le_foldl_digits ds (n * 10 + d))

theorem absorb_eq : ∀ (ds : List Nat) {n : Nat},
    ds.foldl (fun m d => m * 10 + d) n < UInt64.size →
      absorb n ds = (ds.foldl (fun m d => m * 10 + d) n, [])
  | [], _, _ => rfl
  | d :: ds, n, h => by
    rw [absorb, if_pos (Nat.lt_of_le_of_lt (le_foldl_digits ds _) h)]
    exact absorb_eq ds h

theorem Literal.number?_whole {ds : List Nat} (h : Text.ofDigits 10 ds < UInt64.size) :
    (Literal.mk false ds none none).number? = some (.integer (Text.ofDigits 10 ds)) := by
  rw [number?, absorb_eq ds h]
  rfl

theorem Literal.number?_negative {ds : List Nat} (hpos : Text.ofDigits 10 ds ≠ 0)
    (h : 2 * Text.ofDigits 10 ds ≤ UInt64.size) :
    (Literal.mk true ds none none).number? = some (.integer (-Text.ofDigits 10 ds)) := by
  have hlt : Text.ofDigits 10 ds < UInt64.size := by omega
  rw [number?, absorb_eq ds hlt]
  have hfits : Text.ofDigits 10 ds ≠ 0 ∧ 2 * Text.ofDigits 10 ds ≤ UInt64.size := ⟨hpos, h⟩
  exact if_pos hfits

theorem unsignedLiteral_toDigits (negative : Bool) (n : Nat) : ∃ ds,
    unsignedLiteral negative (Nat.toDigits 10 n) =
      some (⟨negative, ds, none, none⟩, []) ∧ Text.ofDigits 10 ds = n := by
  obtain ⟨ds, hds, hn⟩ := wholeDigits_toDigits n
  refine ⟨ds, ?_, hn⟩
  rw [unsignedLiteral, hds]
  rfl

theorem literal_integer {n : Int} (h : (Number.integer n).WellFormed) : ∃ l,
    literal (Number.integer n).text.toList = some (l, []) ∧ l.number? = some (.integer n) := by
  have hmin : Int64.minValue.toInt = -9223372036854775808 := rfl
  have hsize : UInt64.size = 18446744073709551616 := rfl
  obtain ⟨hlow, hhigh⟩ := h
  rw [Number.text]
  by_cases hn : n < 0
  · obtain ⟨ds, hds, hvalue⟩ := unsignedLiteral_toDigits true n.natAbs
    have hnumber := @Literal.number?_negative ds (by omega) (by omega)
    refine ⟨_, ?_, hnumber.trans (by rw [hvalue]; congr; omega)⟩
    rw [if_pos hn, String.toList_append, Nat.toString_eq_repr, Nat.toList_repr]
    exact hds
  · obtain ⟨ds, hds, hvalue⟩ := unsignedLiteral_toDigits false n.natAbs
    have hnumber := @Literal.number?_whole ds (by omega)
    refine ⟨_, ?_, hnumber.trans (by rw [hvalue]; congr; omega)⟩
    rw [if_neg hn, Nat.toString_eq_repr, Nat.toList_repr, literal]
    · exact hds
    · intro cs hcs
      rw [hcs] at hds
      cases hds

/-! ## Numbers -/

/-- A number that is read back from its text. -/
def Number.Rereads (n : Number) : Prop := parse? (number n).text = some (number n)

theorem scalar_of_literal {cs rest : List Char} {l : Literal} {n : Number}
    (h : literal cs = some (l, rest)) (hn : l.number? = some n) :
    scalar cs = some (number n, rest) := by
  have hnone {c : Char} {cs' : List Char} (hdigit : c.isDigit = false) (hminus : c ≠ '-') :
      literal (c :: cs') ≠ some (l, rest) := by
    rw [literal_eq_none hdigit hminus]
    exact fun h => nomatch h
  unfold scalar
  split
  · exact absurd h (hnone (by decide) (by decide))
  · exact absurd h (hnone (by decide) (by decide))
  · exact absurd h (hnone (by decide) (by decide))
  · exact absurd h (hnone (by decide) (by decide))
  · exact Option.bind_eq_some_iff.mpr ⟨(l, rest), h, Option.bind_eq_some_iff.mpr ⟨n, hn, rfl⟩⟩

theorem value_of_literal {cs rest : List Char} {l : Literal} {m : Number}
    (h : literal (skipBlanks cs) = some (l, rest)) (hm : l.number? = some m) (n : Nat) :
    ∀ depth : Nat, value n depth cs = some (number m, rest)
  | 0 => scalar_of_literal h hm
  | depth + 1 => by
    unfold value
    split
    · rename_i hcs
      rw [hcs, literal_eq_none (by decide) (by decide)] at h
      cases h
    · rename_i hcs
      rw [hcs, literal_eq_none (by decide) (by decide)] at h
      cases h
    · exact scalar_of_literal h hm

theorem literal_of_scalar {cs rest : List Char} {n : Number}
    (h : scalar cs = some (number n, rest)) :
    ∃ l, literal cs = some (l, rest) ∧ l.number? = some n := by
  unfold scalar at h
  split at h
  · cases h
  · cases h
  · cases h
  · obtain ⟨p, -, hp⟩ := Option.map_eq_some_iff.mp h
    cases hp
  · obtain ⟨⟨l, rest'⟩, hl, h⟩ := Option.bind_eq_some_iff.mp h
    obtain ⟨m, hm, h⟩ := Option.bind_eq_some_iff.mp h
    cases h
    exact ⟨l, hl, hm⟩

theorem arrayRest_eq_some {item : List Char → Option (Json × List Char)} {n : Nat}
    {cs rest : List Char} {v : Json} (h : arrayRest item n cs = some (v, rest)) :
    ∃ vs, v = array vs := by
  unfold arrayRest at h
  split at h
  · cases h
    exact ⟨[], rfl⟩
  · obtain ⟨p, -, hp⟩ := Option.map_eq_some_iff.mp h
    cases hp
    exact ⟨p.1, rfl⟩

theorem objectRest_eq_some {item : List Char → Option (Json × List Char)} {n : Nat}
    {cs rest : List Char} {v : Json} (h : objectRest item n cs = some (v, rest)) :
    ∃ ms, v = object ms := by
  unfold objectRest at h
  split at h
  · cases h
    exact ⟨[], rfl⟩
  · obtain ⟨p, -, hp⟩ := Option.map_eq_some_iff.mp h
    cases hp
    exact ⟨_, rfl⟩

theorem literal_of_value {n : Nat} {cs rest : List Char} {m : Number} : ∀ depth : Nat,
    value n depth cs = some (number m, rest) →
      ∃ l, literal (skipBlanks cs) = some (l, rest) ∧ l.number? = some m
  | 0, h => literal_of_scalar h
  | depth + 1, h => by
    unfold value at h
    split at h
    · obtain ⟨vs, hvs⟩ := arrayRest_eq_some h
      cases hvs
    · obtain ⟨ms, hms⟩ := objectRest_eq_some h
      cases hms
    · exact literal_of_scalar h

/-- **A number is read back if it is spelt as a literal of its value**, between blanks. -/
theorem Number.rereads_iff {n : Number} : n.Rereads ↔ ∃ l rest,
    literal (skipBlanks n.text.toList) = some (l, rest) ∧ l.number? = some n ∧
      skipBlanks rest = [] := by
  have hchars : (number n).text.toList = n.text.toList := by
    rw [Json.text, String.toList_ofList, chars]
  rw [Rereads, parse?, hchars]
  constructor
  · intro h
    split at h
    · rename_i v rest hv
      split_ifs at h with hrest
      cases h
      obtain ⟨l, hl, hn⟩ := literal_of_value _ hv
      exact ⟨l, rest, hl, hn, List.isEmpty_iff.mp hrest⟩
    · cases h
  · rintro ⟨l, rest, hl, hn, hrest⟩
    simp only [value_of_literal hl hn, hrest]
    rfl

/-! ## Values -/

mutual

/-- The binary64 numbers in a value. -/
def doubles : Json → List Double
  | number (.double x) => [x]
  | array items => doublesItems items
  | object members => doublesMembers members
  | _ => []

/-- The binary64 numbers in the items of an array. -/
def doublesItems : List Json → List Double
  | [] => []
  | v :: rest => v.doubles ++ doublesItems rest

/-- The binary64 numbers in the members of an object. -/
def doublesMembers : List (String × Json) → List Double
  | [] => []
  | (_, v) :: rest => v.doubles ++ doublesMembers rest

end

/-- A text that is read as a value whatever ends it, up to blanks. -/
def Reads (n depth : Nat) (cs : List Char) (v : Json) : Prop :=
  ∀ more : List Char, Terminated more → ∃ rest,
    value n depth (cs ++ more) = some (v, rest) ∧ skipBlanks rest = skipBlanks more

theorem skipBlanks_of_literal {cs rest : List Char} {l : Literal}
    (h : literal (skipBlanks cs) = some (l, rest)) (more : List Char) :
    skipBlanks (cs ++ more) = skipBlanks cs ++ more := by
  have hne : skipBlanks cs ≠ [] := fun e => by
    rw [e] at h
    cases h
  rw [skipBlanks, List.dropWhile_append, if_neg (by simpa [skipBlanks] using hne)]
  rfl

theorem reads_of_literal {cs rest : List Char} {l : Literal} {m : Number}
    (h : literal (skipBlanks cs) = some (l, rest)) (hm : l.number? = some m)
    (hrest : skipBlanks rest = []) (n depth : Nat) : Reads n depth cs (number m) := by
  intro more hmore
  have hl : literal (skipBlanks (cs ++ more)) = some (l, rest ++ more) := by
    rw [skipBlanks_of_literal h]
    exact literal_local h hmore
  refine ⟨_, value_of_literal hl hm n depth, ?_⟩
  rw [skipBlanks] at hrest ⊢
  rw [List.dropWhile_append, hrest]
  rfl

theorem terminated_cons {c : Char} (cs : List Char)
    (h : c.isDigit = false ∧ c ≠ '.' ∧ c ≠ 'e' ∧ c ≠ 'E') : Terminated (c :: cs) := by
  intro d hd
  cases hd
  exact h

theorem value_closing {n depth : Nat} {cs rest : List Char} (h : skipBlanks cs = ']' :: rest) :
    value n depth cs = none := by
  have hscalar : scalar (skipBlanks cs) = none := by
    rw [h, scalar, literal_eq_none (by decide) (by decide)]
    · rfl
    all_goals simp
  cases depth with
  | zero => exact hscalar
  | succ depth =>
    unfold value
    split
    · rename_i hcs
      rw [h] at hcs
      cases hcs
    · rename_i hcs
      rw [h] at hcs
      cases hcs
    · exact hscalar

theorem items_closing {n depth : Nat} {cs rest : List Char} (h : skipBlanks cs = ']' :: rest) :
    ∀ m : Nat, items (value n depth) m cs = none
  | 0 => rfl
  | m + 1 => by
    rw [items, value_closing h]
    rfl

theorem members_closing {item : List Char → Option (Json × List Char)} {cs rest : List Char}
    (h : skipBlanks cs = '\x7d' :: rest) : ∀ m : Nat, members item m cs = none
  | 0 => rfl
  | m + 1 => by
    rw [members, h]
    simp

theorem charsItems_cons (v : Json) {items : List Json} (h : items ≠ []) :
    charsItems (v :: items) = chars v ++ ',' :: charsItems items := by
  rw [charsItems]
  exact h

theorem charsMembers_cons (k : String) (v : Json) {members : List (String × Json)}
    (h : members ≠ []) :
    charsMembers ((k, v) :: members) =
      quote k ++ ':' :: chars v ++ ',' :: charsMembers members := by
  rw [charsMembers]
  exact h

section Sequences

variable {item : List Char → Option (Json × List Char)} {v : Json} {cs rest : List Char}

theorem items_last (hv : item cs = some (v, rest)) {more : List Char}
    (hclose : skipBlanks rest = ']' :: more) (m : Nat) :
    items item (m + 1) cs = some ([v], more) := by
  rw [items, hv]
  simp [hclose]

theorem items_next (hv : item cs = some (v, rest)) {cs' : List Char}
    (hcomma : skipBlanks rest = ',' :: cs') {m : Nat} {vs : List Json} {more : List Char}
    (h : items item m cs' = some (vs, more)) : items item (m + 1) cs = some (v :: vs, more) := by
  rw [items, hv]
  simp [hcomma, h]

theorem skipBlanks_quote (k : String) (cs : List Char) :
    skipBlanks (quote k ++ cs) = '"' :: (k.toList.flatMap escape ++ '"' :: cs) := by
  rw [quote_append]
  rfl

theorem skipBlanks_colon (cs : List Char) : skipBlanks (':' :: cs) = ':' :: cs :=
  List.dropWhile_cons_of_neg (by decide)

theorem members_last (k : String) (hv : item cs = some (v, rest)) {more : List Char}
    (hclose : skipBlanks rest = '\x7d' :: more) (m : Nat) :
    members item (m + 1) (quote k ++ ':' :: cs) = some ([(k, v)], more) := by
  simp [members, skipBlanks_quote, unquote_flatMap_escape, skipBlanks_colon, hv, hclose]

theorem members_next (k : String) (hv : item cs = some (v, rest)) {cs' : List Char}
    (hcomma : skipBlanks rest = ',' :: cs') {m : Nat} {ms : List (String × Json)}
    {more : List Char} (h : members item m cs' = some (ms, more)) :
    members item (m + 1) (quote k ++ ':' :: cs) = some ((k, v) :: ms, more) := by
  simp [members, skipBlanks_quote, unquote_flatMap_escape, skipBlanks_colon, hv, hcomma, h]

end Sequences

theorem items_chars {n depth : Nat} (more : List Char) : ∀ (m : Nat) {vs : List Json},
    vs.length ≤ m → vs ≠ [] → (∀ v ∈ vs, Reads n depth v.chars v) →
      items (value n depth) m (charsItems vs ++ more) = some (vs, more)
  | 0, vs, hlen, hne, _ => absurd (List.length_eq_zero_iff.mp (Nat.le_zero.mp hlen)) hne
  | m + 1, [v], _, _, h => by
    obtain ⟨rest, hv, hrest⟩ := h v List.mem_cons_self (']' :: more)
      (terminated_cons more (by decide))
    rw [charsItems, List.append_assoc, List.singleton_append]
    exact items_last hv hrest m
  | m + 1, v :: w :: vs, hlen, _, h => by
    obtain ⟨rest, hv, hrest⟩ := h v List.mem_cons_self (',' :: (charsItems (w :: vs) ++ more))
      (terminated_cons _ (by decide))
    rw [charsItems_cons v (List.cons_ne_nil w vs), List.append_assoc]
    exact items_next hv hrest (items_chars more m (Nat.le_of_succ_le_succ hlen)
      (List.cons_ne_nil w vs) fun u hu => h u (List.mem_cons_of_mem v hu))

theorem members_chars {n depth : Nat} (more : List Char) : ∀ (m : Nat)
    {ms : List (String × Json)}, ms.length ≤ m → ms ≠ [] →
      (∀ p ∈ ms, Reads n depth p.2.chars p.2) →
        members (value n depth) m (charsMembers ms ++ more) = some (ms, more)
  | 0, ms, hlen, hne, _ => absurd (List.length_eq_zero_iff.mp (Nat.le_zero.mp hlen)) hne
  | m + 1, [(k, v)], _, _, h => by
    obtain ⟨rest, hv, hrest⟩ := h (k, v) List.mem_cons_self ('\x7d' :: more)
      (terminated_cons more (by decide))
    have hchars : charsMembers [(k, v)] ++ more =
        quote k ++ ':' :: (v.chars ++ '\x7d' :: more) := by
      simp [charsMembers]
    rw [hchars]
    exact members_last k hv hrest m
  | m + 1, (k, v) :: q :: ms, hlen, _, h => by
    obtain ⟨rest, hv, hrest⟩ := h (k, v) List.mem_cons_self
      (',' :: (charsMembers (q :: ms) ++ more)) (terminated_cons _ (by decide))
    have hchars : charsMembers ((k, v) :: q :: ms) ++ more =
        quote k ++ ':' :: (v.chars ++ ',' :: (charsMembers (q :: ms) ++ more)) := by
      simp [charsMembers_cons k v (List.cons_ne_nil q ms)]
    rw [hchars]
    exact members_next k hv hrest (members_chars more m (Nat.le_of_succ_le_succ hlen)
      (List.cons_ne_nil q ms) fun p hp => h p (List.mem_cons_of_mem _ hp))

theorem length_le_charsItems : ∀ items : List Json, items.length ≤ (charsItems items).length
  | [] => Nat.zero_le _
  | [v] => by simp [charsItems]
  | v :: w :: vs => by
    have ih := length_le_charsItems (w :: vs)
    simp only [charsItems_cons v (List.cons_ne_nil w vs), List.length_append,
      List.length_cons] at ih ⊢
    omega

theorem length_le_charsMembers : ∀ members : List (String × Json),
    members.length ≤ (charsMembers members).length
  | [] => Nat.zero_le _
  | [(k, v)] => by
    simp only [charsMembers, List.length_append, List.length_cons]
    omega
  | (k, v) :: q :: ms => by
    have ih := length_le_charsMembers (q :: ms)
    simp only [charsMembers_cons k v (List.cons_ne_nil q ms), List.length_append,
      List.length_cons] at ih ⊢
    omega

theorem length_chars_le_charsItems {v : Json} : ∀ {items : List Json}, v ∈ items →
    v.chars.length ≤ (charsItems items).length
  | [w], h => by
    cases List.mem_singleton.mp h
    simp [charsItems]
  | w :: u :: vs, h => by
    rw [charsItems_cons w (List.cons_ne_nil u vs), List.length_append, List.length_cons]
    rcases List.mem_cons.mp h with rfl | h
    · omega
    · have := length_chars_le_charsItems h
      omega

theorem length_chars_le_charsMembers {m : String × Json} : ∀ {members : List (String × Json)},
    m ∈ members → m.2.chars.length ≤ (charsMembers members).length
  | [(k, v)], h => by
    cases List.mem_singleton.mp h
    simp [charsMembers]
    omega
  | (k, v) :: q :: ms, h => by
    rw [charsMembers_cons k v (List.cons_ne_nil q ms), List.length_append, List.length_append,
      List.length_cons, List.length_cons]
    rcases List.mem_cons.mp h with rfl | h
    · dsimp only
      omega
    · have := length_chars_le_charsMembers h
      omega

theorem doubles_subset_doublesItems {v : Json} : ∀ {items : List Json}, v ∈ items →
    v.doubles ⊆ doublesItems items
  | w :: vs, h => by
    rw [doublesItems]
    rcases List.mem_cons.mp h with rfl | h
    · exact List.subset_append_left _ _
    · exact List.subset_append_of_subset_right _ (doubles_subset_doublesItems h)

theorem doubles_subset_doublesMembers {m : String × Json} : ∀ {members : List (String × Json)},
    m ∈ members → m.2.doubles ⊆ doublesMembers members
  | (k, v) :: ms, h => by
    rw [doublesMembers]
    rcases List.mem_cons.mp h with rfl | h
    · exact List.subset_append_left _ _
    · exact List.subset_append_of_subset_right _ (doubles_subset_doublesMembers h)

/-- A value that can be read back from its text by a reader that takes so many items in a row and
descends so deep. -/
structure Printable (n depth : Nat) (v : Json) : Prop where
  wellFormed : v.WellFormed
  depth_le : v.depth ≤ depth
  length_le : v.chars.length ≤ n
  rereads : ∀ x ∈ v.doubles, (Number.double x).Rereads

namespace Printable

variable {n depth : Nat}

theorem array {vs : List Json} (h : Printable n (depth + 1) (.array vs)) :
    ∀ v ∈ vs, Printable n depth v := by
  intro v hv
  have hdepth := h.depth_le
  have hlength := h.length_le
  rw [Json.depth] at hdepth
  rw [chars, List.length_cons] at hlength
  have hv_depth := depth_le_depthItems hv
  have hv_length := length_chars_le_charsItems hv
  exact ⟨wellFormed_array.mp h.wellFormed v hv, by omega, by omega, fun x hx =>
    h.rereads x (doubles_subset_doublesItems hv hx)⟩

theorem object {ms : List (String × Json)} (h : Printable n (depth + 1) (.object ms)) :
    ∀ m ∈ ms, Printable n depth m.2 := by
  intro m hm
  have hdepth := h.depth_le
  have hlength := h.length_le
  rw [Json.depth] at hdepth
  rw [chars, List.length_cons] at hlength
  have hm_depth := depth_le_depthMembers hm
  have hm_length := length_chars_le_charsMembers hm
  exact ⟨(wellFormed_object.mp h.wellFormed).2 m hm, by omega, by omega, fun x hx =>
    h.rereads x (doubles_subset_doublesMembers hm hx)⟩

end Printable

theorem reads_string (n depth : Nat) (s : String) : Reads n depth (quote s) (string s) := by
  intro more _
  have hscalar : scalar (quote s ++ more) = some (string s, more) := by
    rw [quote_append, scalar, unquote_flatMap_escape]
    simp
  refine ⟨more, ?_, rfl⟩
  cases depth with
  | zero => exact hscalar
  | succ depth => exact hscalar

theorem reads_array {n depth : Nat} {vs : List Json} (hlen : vs.length ≤ n)
    (h : ∀ v ∈ vs, Reads n depth v.chars v) : Reads n (depth + 1) (array vs).chars (array vs) := by
  intro more _
  refine ⟨more, ?_, rfl⟩
  have hopen : value n (depth + 1) ((array vs).chars ++ more) =
      arrayRest (value n depth) n (charsItems vs ++ more) := by
    rw [chars]
    rfl
  rw [hopen]
  by_cases hvs : vs = []
  · subst hvs
    rfl
  · have hitems := items_chars more n hlen hvs h
    unfold arrayRest
    split
    · rename_i rest hclose
      rw [items_closing hclose] at hitems
      cases hitems
    · rw [hitems]
      rfl

theorem reads_object {n depth : Nat} {ms : List (String × Json)} (hms : Ascending ms)
    (hlen : ms.length ≤ n) (h : ∀ m ∈ ms, Reads n depth m.2.chars m.2) :
    Reads n (depth + 1) (object ms).chars (object ms) := by
  intro more _
  refine ⟨more, ?_, rfl⟩
  have hopen : value n (depth + 1) ((object ms).chars ++ more) =
      objectRest (value n depth) n (charsMembers ms ++ more) := by
    rw [chars]
    rfl
  rw [hopen]
  by_cases hne : ms = []
  · subst hne
    rfl
  · have hmembers := members_chars more n hlen hne h
    unfold objectRest
    split
    · rename_i rest hclose
      rw [members_closing hclose] at hmembers
      cases hmembers
    · rw [hmembers, ← ofMembers_eq hms]
      rfl

/-- **The characters of a value are read as that value.** -/
theorem value_chars (n : Nat) : ∀ {depth : Nat} {v : Json}, Printable n depth v →
    Reads n depth v.chars v
  | depth, .null, _ => fun more _ => ⟨more, by cases depth <;> rfl, rfl⟩
  | depth, .bool true, _ => fun more _ => ⟨more, by cases depth <;> rfl, rfl⟩
  | depth, .bool false, _ => fun more _ => ⟨more, by cases depth <;> rfl, rfl⟩
  | depth, .number (.integer m), h => by
    obtain ⟨l, hl, hm⟩ := literal_integer h.wellFormed
    have hblanks := skipBlanks_eq_of_literal (Option.ne_none_iff_exists'.mpr ⟨_, hl⟩)
    exact reads_of_literal (hblanks.symm ▸ hl) hm rfl n depth
  | depth, .number (.double x), h => by
    obtain ⟨l, rest, hl, hx, hrest⟩ := Number.rereads_iff.mp (h.rereads x List.mem_cons_self)
    exact reads_of_literal hl hx hrest n depth
  | depth, .string s, _ => reads_string n depth s
  | 0, .array vs, h => absurd h.depth_le (by simp [Json.depth])
  | 0, .object ms, h => absurd h.depth_le (by simp [Json.depth])
  | depth + 1, .array vs, h => by
    have hlen := h.length_le
    rw [chars, List.length_cons] at hlen
    have := length_le_charsItems vs
    exact reads_array (by omega) fun v hv => value_chars n (h.array v hv)
  | depth + 1, .object ms, h => by
    have hlen := h.length_le
    rw [chars, List.length_cons] at hlen
    have := length_le_charsMembers ms
    exact reads_object (wellFormed_object.mp h.wellFormed).1 (by omega) fun m hm =>
      value_chars n (h.object m hm)

/-- **A well-formed value that nests no deeper than the limit is read back from its text**, if its
binary64 numbers are. -/
theorem parse?_text {v : Json} (hv : v.WellFormed) (hdepth : v.depth ≤ nestingLimit)
    (hdoubles : ∀ x ∈ v.doubles, (Number.double x).Rereads) : parse? v.text = some v := by
  have hprintable : Printable v.chars.length nestingLimit v :=
    ⟨hv, hdepth, Nat.le_refl _, hdoubles⟩
  obtain ⟨rest, hvalue, hrest⟩ := value_chars _ hprintable [] fun c hc => nomatch hc
  rw [List.append_nil] at hvalue
  simp only [parse?, text, String.toList_ofList, hvalue, hrest]
  rfl

end Json

end DeckFilter
