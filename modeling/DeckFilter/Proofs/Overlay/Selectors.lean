import DeckFilter.Overlay
import DeckFilter.Proofs.Text.Digits

/-!
# Selectors

A selector is read as a number, perhaps with a dash after it, and that number is printed again. So
nothing of a selector comes through as it was written: numerals of one value select the same
overlays, and everything else selects the second overlay and all later ones.

* `Overlay.IsNumeral`, `Overlay.number?_eq_some`: the numerals and their values;
* `Overlay.Selects`, **`Overlay.selects_iff`**: the specification of a selector, by rules;
* `Overlay.IsSpecification`: the texts that select overlays;
* `selectors_are_read_and_printed`: all of it.
-/

namespace DeckFilter

namespace Overlay

/-! ## Numerals -/

/-- A text is a numeral of value `n`: digits after at most one plus sign, with a value that fits in
32 bits. -/
structure IsNumeral (text : String) (n : Nat) : Prop where
  digits : ∃ ds, (text.toList = ds ∨ text.toList = '+' :: ds) ∧ Text.IsDecimal ds n
  fits : n ≤ 4294967295

theorem number?_eq_some {text : String} {n : Nat} :
    number? text.toList = some n ↔ IsNumeral text n := by
  have hsize : n < UInt32.size ↔ n ≤ 4294967295 := Nat.lt_succ_iff
  rw [number?, Option.filter_eq_some_iff, Text.numeral?_eq_some, decide_eq_true_eq, hsize]
  exact ⟨fun h => ⟨h.1, h.2⟩, fun h => ⟨h.1, h.2⟩⟩

theorem number?_eq_none {text : String} :
    number? text.toList = none ↔ ∀ n, ¬IsNumeral text n := by
  simp only [Option.eq_none_iff_forall_ne_some, ne_eq, number?_eq_some]

theorem not_isNumeral_dash (rest : String) (n : Nat) : ¬IsNumeral (rest ++ "-") n := by
  rintro ⟨⟨ds, hds, hdecimal⟩, -⟩
  have hdash : '-' ∈ (rest ++ "-").toList := by
    rw [String.toList_append]
    exact List.mem_append_right _ List.mem_cons_self
  have hmem : '-' ∈ ds := by
    rcases hds with h | h
    · exact h ▸ hdash
    · rw [h] at hdash
      exact (List.mem_cons.mp hdash).resolve_left (by decide)
  exact absurd (hdecimal.ascii '-' hmem) (by decide)

/-! ## Dashes -/

theorem dropDash_append (rest : String) : dropDash (rest ++ "-").toList = some rest.toList := by
  have hlist : (rest ++ "-").toList = rest.toList ++ ['-'] := String.toList_append
  rw [dropDash, hlist, List.getLast?_concat, if_pos rfl, List.dropLast_concat]

theorem dropDash_cases (text : String) :
    (∃ rest, text = rest ++ "-") ∨ dropDash text.toList = none := by
  by_cases hlast : text.toList.getLast? = some '-'
  · refine Or.inl ⟨String.ofList text.toList.dropLast, ?_⟩
    rw [← String.toList_inj, String.toList_append, String.toList_ofList]
    exact (List.dropLast_append_getLast? '-' hlast).symm
  · exact Or.inr (if_neg hlast)

theorem dropDash_of_isNumeral {text : String} {n : Nat} (h : IsNumeral text n) :
    dropDash text.toList = none := by
  rcases dropDash_cases text with ⟨rest, rfl⟩ | hnone
  · exact absurd h (not_isNumeral_dash rest n)
  · exact hnone

/-! ## Rules -/

/-- The specification of a selector: the one overlay that a numeral names, that overlay and all
later ones if a dash follows, and the fallback for every other text and for none. -/
inductive Selects : Option String → String → Prop where
  | one {text : String} {n : Nat} {ds : List Char} (htext : IsNumeral text n)
      (hds : Text.IsPrinted ds n) : Selects (some text) ("<" ++ String.ofList ds ++ ">")
  | onward {text : String} {n : Nat} {ds : List Char} (htext : IsNumeral text n)
      (hds : Text.IsPrinted ds n) : Selects (some (text ++ "-")) ("<" ++ String.ofList ds ++ "->")
  | missing : Selects none "<2->"
  | other {text : String} (htext : ∀ n, ¬IsNumeral text n)
      (hdash : ∀ rest n, text = rest ++ "-" → ¬IsNumeral rest n) : Selects (some text) "<2->"

section Rules

variable {text : String} {n : Nat}

theorem specification_of_isNumeral (h : IsNumeral text n) :
    specification (some text) = "<" ++ toString n ++ ">" := by
  unfold specification
  dsimp only
  rw [dropDash_of_isNumeral h, number?_eq_some.mpr h]

theorem specification_dash_of_isNumeral (h : IsNumeral text n) :
    specification (some (text ++ "-")) = "<" ++ toString n ++ "->" := by
  unfold specification
  dsimp only
  rw [dropDash_append]
  dsimp only
  rw [number?_eq_some.mpr h]

theorem specification_of_other (htext : ∀ n, ¬IsNumeral text n)
    (hdash : ∀ rest n, text = rest ++ "-" → ¬IsNumeral rest n) :
    specification (some text) = "<2->" := by
  unfold specification
  dsimp only
  rcases dropDash_cases text with ⟨rest, rfl⟩ | hnone
  · rw [dropDash_append]
    dsimp only
    rw [number?_eq_none.mpr fun n => hdash rest n rfl]
    rfl
  · rw [hnone, number?_eq_none.mpr htext]
    rfl

end Rules

theorem Selects.eq_specification {selector : Option String} {text : String}
    (h : Selects selector text) : specification selector = text := by
  cases h with
  | one htext hds => rw [specification_of_isNumeral htext, Text.isPrinted_iff.mp hds]
  | onward htext hds => rw [specification_dash_of_isNumeral htext, Text.isPrinted_iff.mp hds]
  | missing => rfl
  | other htext hdash => exact specification_of_other htext hdash

theorem exists_selects (selector : Option String) : ∃ text, Selects selector text := by
  cases selector with
  | none => exact ⟨_, .missing⟩
  | some text =>
    by_cases htext : ∃ n, IsNumeral text n
    · obtain ⟨n, hn⟩ := htext
      exact ⟨_, .one hn (Text.isPrinted_toDigits n)⟩
    · by_cases hdash : ∃ rest n, text = rest ++ "-" ∧ IsNumeral rest n
      · obtain ⟨rest, n, rfl, hn⟩ := hdash
        exact ⟨_, .onward hn (Text.isPrinted_toDigits n)⟩
      · exact ⟨_, .other (not_exists.mp htext) fun rest n h hn => hdash ⟨rest, n, h, hn⟩⟩

/-- **The rules say what a selector selects.** -/
theorem selects_iff {selector : Option String} {text : String} :
    Selects selector text ↔ specification selector = text := by
  refine ⟨Selects.eq_specification, ?_⟩
  rintro rfl
  obtain ⟨text, h⟩ := exists_selects selector
  exact h.eq_specification ▸ h

/-! ## Specifications -/

/-- One overlay, or an overlay and all later ones. -/
def IsSpecification (text : String) : Prop :=
  ∃ n < UInt32.size, text = "<" ++ toString n ++ ">" ∨ text = "<" ++ toString n ++ "->"

theorem specification_isSpecification (selector : Option String) :
    IsSpecification (specification selector) := by
  have hfallback : IsSpecification "<2->" := ⟨2, by decide, Or.inr rfl⟩
  obtain ⟨text, h⟩ := exists_selects selector
  rw [h.eq_specification]
  cases h with
  | one htext hds =>
    exact ⟨_, Nat.lt_succ_of_le htext.fits, Or.inl (by rw [Text.isPrinted_iff.mp hds])⟩
  | onward htext hds =>
    exact ⟨_, Nat.lt_succ_of_le htext.fits, Or.inr (by rw [Text.isPrinted_iff.mp hds])⟩
  | missing => exact hfallback
  | other => exact hfallback

theorem IsSpecification.mem {text : String} (h : IsSpecification text) {c : Char}
    (hc : c ∈ text.toList) : c ∈ ['<', '-', '>'] ∨ '0' ≤ c ∧ c ≤ '9' := by
  obtain ⟨n, -, htext⟩ := h
  have hend : ∃ closing, text = "<" ++ toString n ++ closing ∧
      ∀ c ∈ closing.toList, c ∈ ['<', '-', '>'] := by
    rcases htext with rfl | rfl
    · exact ⟨">", rfl, by simp⟩
    · exact ⟨"->", rfl, by simp⟩
  obtain ⟨closing, rfl, hclosing⟩ := hend
  rw [String.toList_append, String.toList_append, List.mem_append, List.mem_append] at hc
  rcases hc with (hc | hc) | hc
  · exact Or.inl (List.mem_cons.mpr (Or.inl (List.mem_singleton.mp hc)))
  · rw [Nat.toString_eq_ofList_toDigits, String.toList_ofList] at hc
    exact Or.inr ((Text.isDecimal_toDigits n).ascii c hc)
  · exact Or.inl (hclosing c hc)

end Overlay

open Overlay in
/-- **Selectors are read and printed.** A numeral selects the overlay of its value, a numeral and
one dash that overlay and all later ones, everything else the second overlay and all later ones; the
value is printed without zeros in front. So what is selected always specifies overlays, in digits, a
dash and the brackets alone, and numerals of one value make no difference in the markup around
staged content. -/
theorem selectors_are_read_and_printed :
    (∀ selector text, Selects selector text ↔ specification selector = text) ∧
    (∀ ds n, Text.IsPrinted ds n ↔ String.ofList ds = toString n) ∧
    (∀ selector, IsSpecification (specification selector) ∧
      ∀ c ∈ (specification selector).toList, c ∈ ['<', '-', '>'] ∨ '0' ≤ c ∧ c ≤ '9') ∧
    (∀ text text' n, IsNumeral text n → IsNumeral text' n →
      specification (some text) = specification (some text') ∧
      specification (some (text ++ "-")) = specification (some (text' ++ "-"))) ∧
    ∀ classes content rawFormat, ∃ text, Selects classes[2]? text ∧
      stage classes content rawFormat = .raw rawFormat ("\\begin\x7bvisibleenv\x7d" ++ text) ::
        content ++ [.raw rawFormat "\\end\x7bvisibleenv\x7d"] := by
  refine ⟨fun selector text => selects_iff, fun ds n => Text.isPrinted_iff, fun selector => ?_,
    fun text text' n h h' => ⟨?_, ?_⟩, fun classes content rawFormat => ?_⟩
  · have h := specification_isSpecification selector
    exact ⟨h, fun c => h.mem⟩
  · rw [specification_of_isNumeral h, specification_of_isNumeral h']
  · rw [specification_dash_of_isNumeral h, specification_dash_of_isNumeral h']
  · exact ⟨_, selects_iff.mpr rfl, rfl⟩

open Overlay in
/-- Zeros in front make no difference, and neither does a plus sign. A value of 33 bits is none. -/
theorem selectors_are_read_and_printed_zeros :
    IsNumeral "+007" 7 ∧ IsNumeral "7" 7 ∧
      specification (some "+007-") = specification (some "7-") ∧
      Selects (some "+007-") "<7->" ∧ Selects (some "4294967296-") "<2->" := by
  have hzeros : IsNumeral "+007" 7 :=
    ⟨⟨['0', '0', '7'], Or.inr (by simp), by decide, by simp, by decide +kernel⟩,
      by decide⟩
  have hplain : IsNumeral "7" 7 :=
    ⟨⟨['7'], Or.inl (by simp), by decide, by simp, by decide +kernel⟩, by decide⟩
  obtain ⟨hrules, -, -, hsame, -⟩ := selectors_are_read_and_printed
  exact ⟨hzeros, hplain, (hsame "+007" "7" 7 hzeros hplain).2,
    (hrules (some "+007-") "<7->").mpr (by decide +kernel),
    (hrules (some "4294967296-") "<2->").mpr (by decide +kernel)⟩

end DeckFilter
