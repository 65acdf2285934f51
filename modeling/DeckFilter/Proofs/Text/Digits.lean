import DeckFilter.Text.Digits
import Mathlib.Data.List.Basic
import Mathlib.Data.List.TakeWhile
import Mathlib.Data.Nat.Digits.Defs

/-!
# Decimal numbers

Digits that write a number may have zeros in front, so a number is written in many ways. It is
printed in one of them, the one without such zeros.

* `Text.IsDecimal`: digits and the number they write;
* **`Text.numeral?_eq_some`**: a number is read from its digits after at most one plus sign;
* `Text.IsPrinted`, **`Text.isPrinted_iff`**: the digits without zeros in front are the printed
  ones.
-/

namespace DeckFilter.Text

/-! ## Digits -/

/-- These are one or more decimal digits, the most significant one first, and they write `n`. -/
structure IsDecimal (cs : List Char) (n : Nat) : Prop where
  nonempty : cs ≠ []
  ascii : ∀ c ∈ cs, '0' ≤ c ∧ c ≤ '9'
  value : Nat.ofDigits 10 (cs.map fun c => c.toNat - '0'.toNat).reverse = n

theorem isDigit_iff {c : Char} : c.isDigit = true ↔ '0' ≤ c ∧ c ≤ '9' := by
  unfold Char.isDigit
  rw [Bool.and_eq_true, decide_eq_true_eq, decide_eq_true_eq]
  rfl

theorem digitChar_of_isDigit {c : Char} (h : '0' ≤ c ∧ c ≤ '9') :
    c.toNat - '0'.toNat < 10 ∧ (c.toNat - '0'.toNat).digitChar = c := by
  have hlow : 48 ≤ c.toNat := h.1
  have hhigh : c.toNat ≤ 57 := h.2
  have hten : c.toNat - '0'.toNat < 10 := by
    show c.toNat - 48 < 10
    omega
  refine ⟨hten, Char.toNat_inj.mp ?_⟩
  rw [Nat.toNat_digitChar_of_lt_ten hten]
  show 48 + (c.toNat - 48) = c.toNat
  omega

theorem ofDigits_eq (radix : Nat) (ds : List Nat) :
    ofDigits radix ds = Nat.ofDigits radix ds.reverse := by
  rw [ofDigits, Nat.ofDigits_eq_foldr, List.foldr_reverse]
  congr 1
  funext n d
  rw [Nat.cast_id, Nat.mul_comm, Nat.add_comm]

/-! ## Numerals -/

theorem digits_of_forall {cs : List Char} (h : ∀ c ∈ cs, '0' ≤ c ∧ c ≤ '9') :
    digits cs = (cs.map fun c => c.toNat - '0'.toNat, []) := by
  have hdigit : ∀ c ∈ cs, c.isDigit = true := fun c hc => isDigit_iff.mpr (h c hc)
  rw [digits, List.takeWhile_eq_self_iff.mpr hdigit, List.dropWhile_eq_nil_iff.mpr hdigit]

theorem dropPlus_cases (cs : List Char) : cs = dropPlus cs ∨ cs = '+' :: dropPlus cs := by
  unfold dropPlus
  split
  · exact Or.inr rfl
  · exact Or.inl rfl

theorem IsDecimal.dropPlus_eq {cs : List Char} {n : Nat} (h : IsDecimal cs n) :
    dropPlus cs = cs := by
  unfold dropPlus
  split
  · exact absurd (h.ascii '+' List.mem_cons_self) (by decide)
  · rfl

theorem numeral?_of_isDecimal {cs : List Char} {n : Nat} (h : IsDecimal (dropPlus cs) n) :
    numeral? cs = some n := by
  obtain ⟨c, cs', hcs⟩ := List.exists_cons_of_ne_nil h.nonempty
  have hvalue := h.value
  rw [numeral?, digits_of_forall h.ascii, ← hvalue, ← ofDigits_eq, hcs]
  rfl

theorem isDecimal_of_numeral? {cs : List Char} {n : Nat} (h : numeral? cs = some n) :
    IsDecimal (dropPlus cs) n := by
  unfold numeral? at h
  split at h
  · cases h
  · rename_i ds hsome hdigits
    obtain ⟨hds, hrest⟩ := Prod.mk.inj hdigits
    have hall := List.dropWhile_eq_nil_iff.mp hrest
    rw [List.takeWhile_eq_self_iff.mpr hall] at hds
    refine ⟨fun hnil => ?_, fun c hc => isDigit_iff.mp (hall c hc), ?_⟩
    · rw [hnil] at hds
      exact hsome hds.symm
    · rw [hds, ← ofDigits_eq]
      exact Option.some.inj h
  · cases h

/-- **A number is read from its digits**, after at most one plus sign. -/
theorem numeral?_eq_some {cs : List Char} {n : Nat} : numeral? cs = some n ↔
    ∃ ds, (cs = ds ∨ cs = '+' :: ds) ∧ IsDecimal ds n := by
  constructor
  · intro h
    exact ⟨dropPlus cs, dropPlus_cases cs, isDecimal_of_numeral? h⟩
  · rintro ⟨ds, rfl | rfl, hds⟩
    · exact numeral?_of_isDecimal (hds.dropPlus_eq.symm ▸ hds)
    · exact numeral?_of_isDecimal hds

/-! ## Printed numbers -/

/-- These are the digits that write `n` without a zero in front, which only zero itself needs. -/
structure IsPrinted (cs : List Char) (n : Nat) : Prop extends IsDecimal cs n where
  no_zero_first : cs.head? = some '0' → cs = ['0']

theorem ofDigits_map (cs : List Char) :
    ofDigits 10 (cs.map fun c => c.toNat - '0'.toNat) = Nat.ofDigitChars 10 cs 0 := by
  rw [ofDigits, List.foldl_map, Nat.ofDigitChars_eq_foldl]
  simp only [Nat.mul_comm]

theorem isDecimal_toDigits (n : Nat) : IsDecimal (Nat.toDigits 10 n) n where
  nonempty := Nat.toDigits_ne_nil
  ascii _ hc := isDigit_iff.mp (Nat.isDigit_of_mem_toDigits (by decide) (by decide) hc)
  value := by rw [← ofDigits_eq, ofDigits_map, Nat.ofDigitChars_ten_toDigits]

theorem eq_zero_of_head?_toDigits (n : Nat) : (Nat.toDigits 10 n).head? = some '0' → n = 0 := by
  induction n using Nat.strongRecOn with
  | _ n ih =>
    intro hzero
    by_cases hn : n < 10
    · rw [Nat.toDigits_of_lt_base hn] at hzero
      exact Nat.digitChar_eq_zero.mp (Option.some.inj hzero)
    · rw [Nat.toDigits_of_base_le (by decide) (by omega),
        List.head?_append_of_ne_nil _ Nat.toDigits_ne_nil] at hzero
      have := ih (n / 10) (by omega) hzero
      omega

theorem isPrinted_toDigits (n : Nat) : IsPrinted (Nat.toDigits 10 n) n where
  toIsDecimal := isDecimal_toDigits n
  no_zero_first h := by
    rw [eq_zero_of_head?_toDigits n h]
    rfl

theorem toDigits_append {cs : List Char} (hcs : ∀ c ∈ cs, '0' ≤ c ∧ c ≤ '9') {m : Nat}
    (hm : 0 < m) : Nat.toDigits 10 m ++ cs = Nat.toDigits 10 (Nat.ofDigitChars 10 cs m) := by
  induction cs generalizing m with
  | nil => rw [List.append_nil, Nat.ofDigitChars_nil]
  | cons c cs ih =>
    obtain ⟨hc, hrest⟩ := List.forall_mem_cons.mp hcs
    obtain ⟨hten, hchar⟩ := digitChar_of_isDigit hc
    rw [Nat.ofDigitChars_cons, ← ih hrest (by omega),
      ← Nat.toDigits_append_toDigits (by decide) hm hten, Nat.toDigits_of_lt_base hten, hchar,
      List.append_assoc, List.singleton_append]

theorem IsPrinted.eq_toDigits {cs : List Char} {n : Nat} (h : IsPrinted cs n) :
    cs = Nat.toDigits 10 n := by
  have hvalue := h.value
  rw [← ofDigits_eq, ofDigits_map] at hvalue
  cases cs with
  | nil => exact absurd rfl h.nonempty
  | cons c cs =>
    obtain ⟨hc, hrest⟩ := List.forall_mem_cons.mp h.ascii
    obtain ⟨hten, hchar⟩ := digitChar_of_isDigit hc
    by_cases hzero : c = '0'
    · rw [hzero] at h hvalue
      have hcs := h.no_zero_first rfl
      rw [hcs] at hvalue
      rw [hzero, hcs, ← hvalue]
      rfl
    · have hpos : 0 < c.toNat - '0'.toNat := by
        refine Nat.pos_of_ne_zero fun hnone => hzero ?_
        rw [← hchar, hnone]
        rfl
      rw [← hvalue, Nat.ofDigitChars_cons, Nat.mul_zero, Nat.zero_add,
        ← toDigits_append hrest hpos, Nat.toDigits_of_lt_base hten, hchar]
      rfl

/-- **A number is printed in the one way without a zero in front.** -/
theorem isPrinted_iff {cs : List Char} {n : Nat} :
    IsPrinted cs n ↔ String.ofList cs = toString n := by
  rw [Nat.toString_eq_ofList_toDigits, String.ofList_inj]
  constructor
  · exact IsPrinted.eq_toDigits
  · rintro rfl
    exact isPrinted_toDigits n

end DeckFilter.Text
