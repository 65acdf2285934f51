import DeckFilter.Double
import Mathlib.Algebra.Order.Field.Power
import Mathlib.Tactic.FieldSimp
import Mathlib.Tactic.Linarith
import Mathlib.Tactic.NormNum
import Mathlib.Tactic.Positivity
import Mathlib.Tactic.Ring

/-!
# Finite results

A quotient of at most the largest finite magnitude rounds to a finite number. So do all integers of
64 bits, and so does a finite number divided by a power of ten.

* `Double.step_upper`, `Double.step_lower`: what is left of a quotient after its step is taken out;
* `Double.nearest_isFinite`: rounding;
* `Double.ofInt_isFinite`, `Double.ofNat_isFinite`, `Double.div_powTen_isFinite`: operations.
-/

namespace DeckFilter

namespace Double

/-! ## Rounding to integers -/

theorem roundHalfEven_le {num den m : ℕ} (hden : 0 < den) (h : num ≤ m * den) :
    roundHalfEven num den ≤ m := by
  have hlow : num / den ≤ m := Nat.div_le_of_le_mul (by rwa [Nat.mul_comm])
  have hdiv : den * (num / den) + num % den = num := Nat.div_add_mod num den
  rcases Nat.lt_or_ge (num / den) m with hlt | hge
  · simp only [roundHalfEven]
    split_ifs <;> omega
  · have heq : num / den = m := Nat.le_antisymm hlow hge
    have hmod : num % den = 0 := by
      rw [heq, Nat.mul_comm] at hdiv
      omega
    simp only [roundHalfEven, hmod, heq]
    simp [hden]

/-! ## The step of a quotient -/

theorem shifted_div (num den : ℕ) (q : ℤ) :
    ((num <<< (-q).toNat : ℕ) : ℚ) / (den <<< q.toNat : ℕ) = (num : ℚ) / den / 2 ^ q := by
  have hq : (2 : ℚ) ^ q = 2 ^ q.toNat / 2 ^ (-q).toNat := by
    conv_lhs => rw [← Int.toNat_sub_toNat_neg q]
    rw [zpow_sub₀ two_ne_zero, zpow_natCast, zpow_natCast]
  rw [hq, Nat.shiftLeft_eq, Nat.shiftLeft_eq]
  push_cast
  field_simp

theorem shifted_pos {den : ℕ} (hden : 0 < den) (n : ℕ) : 0 < den <<< n := by
  rw [Nat.shiftLeft_eq]
  positivity

theorem shifted_le_iff {num den : ℕ} (hden : 0 < den) (m : ℕ) (q : ℤ) :
    num <<< (-q).toNat ≤ m * (den <<< q.toNat) ↔ (num : ℚ) / den ≤ m * 2 ^ q := by
  have hpos : (0 : ℚ) < (den <<< q.toNat : ℕ) := by exact_mod_cast shifted_pos hden q.toNat
  rw [← div_le_iff₀ (zpow_pos two_pos q), ← shifted_div, div_le_iff₀ hpos]
  exact_mod_cast Iff.rfl

theorem le_shifted_iff {num den : ℕ} (hden : 0 < den) (m : ℕ) (q : ℤ) :
    m * (den <<< q.toNat) ≤ num <<< (-q).toNat ↔ m * 2 ^ q ≤ (num : ℚ) / den := by
  have hpos : (0 : ℚ) < (den <<< q.toNat : ℕ) := by exact_mod_cast shifted_pos hden q.toNat
  rw [← le_div_iff₀ (zpow_pos two_pos q), ← shifted_div, le_div_iff₀ hpos]
  exact_mod_cast Iff.rfl

theorem quotient_bounds {num den : ℕ} (hnum : num ≠ 0) (hden : 0 < den) :
    (2 : ℚ) ^ ((num.log2 : ℤ) - den.log2 - 1) ≤ num / den ∧
      (num : ℚ) / den < 2 ^ ((num.log2 : ℤ) - den.log2 + 1) := by
  have h₁ : (2 : ℚ) ^ num.log2 ≤ num := by exact_mod_cast Nat.log2_self_le hnum
  have h₂ : (num : ℚ) < 2 ^ (num.log2 + 1) := by exact_mod_cast Nat.lt_log2_self
  have h₃ : (2 : ℚ) ^ den.log2 ≤ den := by exact_mod_cast Nat.log2_self_le hden.ne'
  have h₄ : (den : ℚ) < 2 ^ (den.log2 + 1) := by exact_mod_cast Nat.lt_log2_self
  have hden' : (0 : ℚ) < den := by exact_mod_cast hden
  constructor
  · rw [le_div_iff₀ hden', show (num.log2 : ℤ) - den.log2 - 1 = num.log2 - (den.log2 + 1 : ℕ) by
      push_cast; ring, zpow_sub₀ two_ne_zero, zpow_natCast, zpow_natCast, div_mul_eq_mul_div,
      div_le_iff₀ (by positivity)]
    exact mul_le_mul h₁ h₄.le hden'.le (by positivity)
  · rw [div_lt_iff₀ hden', show (num.log2 : ℤ) - den.log2 + 1 = (num.log2 + 1 : ℕ) - den.log2 by
      push_cast; ring, zpow_sub₀ two_ne_zero, zpow_natCast, zpow_natCast, div_mul_eq_mul_div,
      lt_div_iff₀ (by positivity)]
    exact mul_lt_mul h₂ h₃ (by positivity) (by positivity)

theorem step_eq (num den : ℕ) (hden : 0 < den) :
    step num den = max (-1074) (if (2 : ℚ) ^ ((num.log2 : ℤ) - den.log2) ≤ num / den then
      (num.log2 : ℤ) - den.log2 - 52 else (num.log2 : ℤ) - den.log2 - 53) := by
  have hwide : den <<< ((num.log2 : ℤ) - den.log2 - 53).toNat <<< 53 ≤
      num <<< (-((num.log2 : ℤ) - den.log2 - 53)).toNat ↔
        (2 : ℚ) ^ ((num.log2 : ℤ) - den.log2) ≤ num / den := by
    rw [Nat.shiftLeft_eq _ 53, Nat.mul_comm, le_shifted_iff hden]
    have : (2 : ℚ) ^ ((num.log2 : ℤ) - den.log2) =
        (2 ^ 53 : ℕ) * 2 ^ ((num.log2 : ℤ) - den.log2 - 53) := by
      rw [Nat.cast_pow, ← zpow_natCast, Nat.cast_ofNat, ← zpow_add₀ two_ne_zero]
      congr 1
      push_cast
      ring
    rw [this]
  simp only [step, hwide, decide_eq_true_eq]
  split_ifs <;> congr 1
  ring

/-- **A quotient is below `2 ^ 53` of its steps.** -/
theorem step_upper {num den : ℕ} (hnum : num ≠ 0) (hden : 0 < den) :
    (num : ℚ) / den < 2 ^ (step num den + 53) := by
  have hle : (if (2 : ℚ) ^ ((num.log2 : ℤ) - den.log2) ≤ num / den then
      (num.log2 : ℤ) - den.log2 - 52 else (num.log2 : ℤ) - den.log2 - 53) ≤ step num den := by
    rw [step_eq num den hden]
    exact le_max_right _ _
  split_ifs at hle with hwide
  · refine lt_of_lt_of_le (quotient_bounds hnum hden).2 (zpow_le_zpow_right₀ one_le_two ?_)
    linarith
  · refine lt_of_lt_of_le (not_le.mp hwide) (zpow_le_zpow_right₀ one_le_two ?_)
    linarith

/-- **A quotient is at least `2 ^ 52` of its steps**, unless the step is the smallest one. -/
theorem step_lower {num den : ℕ} (hnum : num ≠ 0) (hden : 0 < den) (h : -1074 < step num den) :
    (2 : ℚ) ^ (step num den + 52) ≤ num / den := by
  rw [step_eq num den hden] at h ⊢
  rw [max_eq_right ((lt_max_iff.mp h).resolve_left (lt_irrefl _)).le]
  split_ifs with hwide
  · convert hwide using 2
    ring
  · convert (quotient_bounds hnum hden).1 using 2
    ring

/-! ## Finite numbers -/

theorem ofRank_isFinite {negative : Bool} {rank : ℕ} (h : rank < 2047 <<< 52) :
    (ofRank negative rank).isFinite := by
  rw [ofRank, dif_pos h]
  simp only [isFinite, decide_eq_true_eq]
  omega

/-- **A quotient of at most the largest finite magnitude rounds to a finite number.** -/
theorem nearest_isFinite {negative : Bool} {num den : ℕ} (hden : 0 < den)
    (h : (num : ℚ) / den ≤ (2 ^ 53 - 1 : ℕ) * 2 ^ (971 : ℤ)) :
    (nearest negative num den).isFinite := by
  rw [nearest]
  split_ifs with hnum
  · exact ofRank_isFinite (by decide)
  have hupper := step_upper hnum hden
  have hlower := step_lower hnum hden
  have hmin : -1074 ≤ step num den := by
    rw [step_eq num den hden]
    exact le_max_left _ _
  generalize step num den = q at hupper hlower hmin
  have hq : q ≤ 971 := by
    by_contra hq
    have h₁ := hlower (by omega)
    have h₂ : (2 : ℚ) ^ (1024 : ℤ) ≤ 2 ^ (q + 52) := zpow_le_zpow_right₀ one_le_two (by omega)
    have h₃ : ((2 ^ 53 - 1 : ℕ) : ℚ) * 2 ^ (971 : ℤ) < 2 ^ (1024 : ℤ) := by
      rw [show (1024 : ℤ) = 53 + 971 from rfl, zpow_add₀ two_ne_zero]
      exact mul_lt_mul_of_pos_right (by norm_num) (zpow_pos two_pos _)
    exact absurd (h₂.trans (h₁.trans h)) (not_le.mpr h₃)
  apply ofRank_isFinite
  rcases hq.lt_or_eq with hq | rfl
  · have hround : roundAt num den q ≤ 2 ^ 53 := by
      refine roundHalfEven_le (shifted_pos hden _) ((shifted_le_iff hden _ q).mpr ?_)
      refine hupper.le.trans (le_of_eq ?_)
      rw [zpow_add₀ two_ne_zero, mul_comm]
      norm_num
    simp only [Nat.shiftLeft_eq]
    omega
  · have hround : roundAt num den 971 ≤ 2 ^ 53 - 1 :=
      roundHalfEven_le (shifted_pos hden _) ((shifted_le_iff hden _ 971).mpr h)
    simp only [Nat.shiftLeft_eq]
    omega

/-! ## Operations -/

theorem natAbs_div_one_le {n : ℕ} (h : n < UInt64.size) :
    (n : ℚ) / (1 : ℕ) ≤ (2 ^ 53 - 1 : ℕ) * 2 ^ (971 : ℤ) := by
  have h₁ : (n : ℚ) ≤ 2 ^ (64 : ℤ) := by
    have : n ≤ 2 ^ 64 := h.le
    exact_mod_cast this
  have h₂ : (2 : ℚ) ^ (64 : ℤ) ≤ 2 ^ (971 : ℤ) := zpow_le_zpow_right₀ one_le_two (by norm_num)
  have h₃ : (0 : ℚ) < 2 ^ (971 : ℤ) := zpow_pos two_pos _
  rw [Nat.cast_one, div_one]
  refine (h₁.trans h₂).trans (le_mul_of_one_le_left h₃.le ?_)
  norm_num

/-- **A natural number of 64 bits rounds to a finite number.** -/
theorem ofNat_isFinite {n : ℕ} (h : n < UInt64.size) : (ofNat n).isFinite :=
  nearest_isFinite one_pos (natAbs_div_one_le h)

/-- **An integer of 64 bits rounds to a finite number.** -/
theorem ofInt_isFinite {n : ℤ} (h : n.natAbs < UInt64.size) : (ofInt n).isFinite :=
  nearest_isFinite one_pos (natAbs_div_one_le h)

theorem magnitude_le {x : Double} (h : x.isFinite) :
    (x.significand : ℚ) * 2 ^ x.scale ≤ (2 ^ 53 - 1 : ℕ) * 2 ^ (971 : ℤ) := by
  have hexp : x.exponent.val < 2047 := of_decide_eq_true h
  have hfrac : x.fraction.val < 1 <<< 52 := x.fraction.isLt
  have hsig : x.significand ≤ 2 ^ 53 - 1 := by
    simp only [significand]
    split_ifs <;> omega
  have hscale : x.scale ≤ 971 := by
    simp only [scale]
    omega
  exact mul_le_mul (by exact_mod_cast hsig) (zpow_le_zpow_right₀ one_le_two hscale)
    (zpow_pos two_pos _).le (by positivity)

theorem one_le_powTen : ∀ k < 309,
    1 <<< (-(powTen k).scale).toNat ≤ (powTen k).significand <<< (powTen k).scale.toNat := by
  decide +kernel

theorem significand_pos_of_le {x : Double}
    (h : 1 <<< (-x.scale).toNat ≤ x.significand <<< x.scale.toNat) : 0 < x.significand := by
  rw [Nat.shiftLeft_eq, Nat.shiftLeft_eq, Nat.one_mul] at h
  exact Nat.pos_of_mul_pos_right ((Nat.two_pow_pos _).trans_le h)

theorem div_isFinite {x y : Double} (hx : x.isFinite)
    (hy : 1 <<< (-y.scale).toNat ≤ y.significand <<< y.scale.toNat) : (x.div y).isFinite := by
  have hpos := significand_pos_of_le hy
  have hone : (1 : ℚ) ≤ y.significand * 2 ^ y.scale := by
    have h := (@le_shifted_iff y.significand 1 one_pos 1 (-y.scale)).mp (by simpa using hy)
    rw [zpow_neg, Nat.cast_one, one_mul, div_one,
      inv_le_iff_one_le_mul₀ (zpow_pos two_pos _)] at h
    exact h
  refine nearest_isFinite (shifted_pos hpos _) ?_
  have hshift := shifted_div x.significand y.significand (-(x.scale - y.scale))
  rw [neg_neg] at hshift
  rw [hshift, zpow_neg, div_inv_eq_mul, zpow_sub₀ two_ne_zero, div_mul_div_comm]
  exact (div_le_self (by positivity) hone).trans (magnitude_le hx)

/-- **A finite number divided by a power of ten is finite.** -/
theorem div_powTen_isFinite {x : Double} (hx : x.isFinite) {k : ℕ} (hk : k ≤ 308) :
    (x.div (powTen k)).isFinite :=
  div_isFinite hx (one_le_powTen k (by omega))

end Double

end DeckFilter
