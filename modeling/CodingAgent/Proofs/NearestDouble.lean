import Mathlib.Algebra.Order.Field.Power
import Mathlib.Data.Rat.Cast.Order
import Mathlib.Tactic.FieldSimp
import Mathlib.Tactic.Linarith
import CodingAgent.Proofs.FloatBits

/-!
# Rounding a fraction to the nearest double

`nearestBits num den` rounds `num / den` to a double in three steps: `gridExponent` picks the
binary exponent whose grid gives the value a 53-bit significand, `roundedOnGrid` rounds the
value on that grid, ties to even, and a significand that rounds up to `2^53` is carried into
the next binade. This module proves that the three steps round correctly:

* `RoundsTo m q v`: the rationals that round to the positive double `m * 2^q`, the interval
  from halfway to the double below to halfway to the double above, its ends included when `m`
  is even;
* `gridExponent_isGrid`: `gridExponent` is the grid exponent `IsGrid` describes, which is
  unique (`IsGrid.unique`);
* `nearestQuotient_eq_of_between`: `roundedOnGrid` is the nearest integer, ties to even;
* `nearestBits_eq_encodeBits`: every fraction that rounds to a double in range gives the
  bits of that double, including the fractions just below the least significand of a binade,
  which round on the finer grid below and carry.

Values are rationals; the integer arithmetic of the code is read through `Nat.cast`.
-/

namespace CodingAgent.Decimal

/-! ## Powers of two as rationals -/

/-- The code splits a power of two by the sign of its exponent; both halves at once. -/
theorem two_zpow_eq_div (e : Int) :
    (2 : ℚ) ^ e = (2 : ℚ) ^ e.toNat / (2 : ℚ) ^ (-e).toNat := by
  rcases le_or_gt 0 e with h | h
  · have h1 : (-e).toNat = 0 := by omega
    rw [h1, pow_zero, div_one, ← zpow_natCast, Int.toNat_of_nonneg h]
  · have h1 : e.toNat = 0 := by omega
    rw [h1, pow_zero, one_div, ← zpow_natCast, Int.toNat_of_nonneg (by omega), zpow_neg, inv_inv]

theorem two_zpow_pos (e : Int) : (0 : ℚ) < 2 ^ e := zpow_pos (by norm_num) e

theorem two_zpow_sub_one (e : Int) : (2 : ℚ) ^ e = 2 * 2 ^ (e - 1) := by
  rw [← zpow_one_add₀ (by norm_num : (2 : ℚ) ≠ 0)]
  ring_nf

theorem two_zpow_le_of_le {a b : Int} (h : a ≤ b) : (2 : ℚ) ^ a ≤ 2 ^ b :=
  zpow_le_zpow_right₀ (by norm_num) h

/-! ## The nearest integer, ties to even -/

/-- The nearest natural number to `a / d`, the even one of two equally near. -/
def nearestQuotient (a d : Nat) : Nat :=
  if 2 * (a % d) > d then a / d + 1
  else if 2 * (a % d) < d then a / d
  else if (a / d) % 2 == 1 then a / d + 1 else a / d

/-- `roundedOnGrid` divides the value by the grid, with the power of two on the side its
sign puts it. -/
theorem roundedOnGrid_eq (num den : Nat) (e : Int) :
    roundedOnGrid num den e = nearestQuotient (num * 2 ^ (-e).toNat) (den * 2 ^ e.toNat) := by
  have hpow : ∀ k, Nat.pow 2 k = 2 ^ k := fun _ => rfl
  unfold roundedOnGrid nearestQuotient
  rcases le_or_gt 0 e with h | h
  · have h1 : (-e).toNat = 0 := by omega
    simp only [if_pos h, hpow, h1, pow_zero, Nat.mul_one]
  · have h1 : e.toNat = 0 := by omega
    simp only [if_neg (not_le.2 h), hpow, h1, pow_zero, Nat.mul_one]

/-- `a / d` is its quotient and the fraction its remainder makes. -/
theorem div_eq_quotient_add (a d : Nat) (hd : 0 < d) :
    (a : ℚ) / d = (a / d : Nat) + (a % d : Nat) / d := by
  have hd' : (d : ℚ) ≠ 0 := by exact_mod_cast hd.ne'
  field_simp
  exact_mod_cast (Nat.div_add_mod a d).symm

/-- The nearest integer to a value between `m - 1/2` and `m + 1/2` is `m`; at either end it
is `m` when `m` is even. -/
theorem nearestQuotient_eq_of_between {a d m : Nat} (hd : 0 < d)
    (hlo : (m : ℚ) - 1/2 < a / d ∨ (m % 2 = 0 ∧ (m : ℚ) - 1/2 = a / d))
    (hhi : (a : ℚ) / d < m + 1/2 ∨ (m % 2 = 0 ∧ (a : ℚ) / d = m + 1/2)) :
    nearestQuotient a d = m := by
  have hx := div_eq_quotient_add a d hd
  unfold nearestQuotient
  set q := a / d
  set r := a % d
  have hdq : (0 : ℚ) < d := by exact_mod_cast hd
  have hr : (r : ℚ) < d := by exact_mod_cast Nat.mod_lt a hd
  have hr0 : (0 : ℚ) ≤ r / d := div_nonneg (Nat.cast_nonneg _) hdq.le
  have hr1 : (r : ℚ) / d < 1 := by rw [div_lt_iff₀ hdq]; linarith
  -- the value sits in `[q, q + 1)`; the remainder against `d / 2` places it in a half
  have hlo' : (m : ℚ) - 1/2 ≤ a / d := by rcases hlo with h | ⟨-, h⟩ <;> linarith
  have hhi' : (a : ℚ) / d ≤ m + 1/2 := by rcases hhi with h | ⟨-, h⟩ <;> linarith
  split
  · rename_i hup
    have hhalf : (1 : ℚ) / 2 < r / d := by
      rw [lt_div_iff₀ hdq]
      have : (d : ℚ) < 2 * r := by exact_mod_cast hup
      linarith
    have h1 : (q : ℚ) < m := by linarith
    have h2 : (m : ℚ) < q + 2 := by linarith
    have h1' : q < m := by exact_mod_cast h1
    have h2' : m < q + 2 := by exact_mod_cast h2
    omega
  split
  · rename_i _ hdown
    have hhalf : (r : ℚ) / d < 1 / 2 := by
      rw [div_lt_iff₀ hdq]
      have : (2 * r : ℚ) < d := by exact_mod_cast hdown
      linarith
    have h1 : (q : ℚ) < m + 1 := by linarith
    have h2 : (m : ℚ) < q + 1 := by linarith
    have h1' : q < m + 1 := by exact_mod_cast h1
    have h2' : m < q + 1 := by exact_mod_cast h2
    omega
  · -- a tie: the value is `q + 1/2`, so `m` is `q` or `q + 1`, whichever is even
    rename_i hnup hndown
    have htie : (r : ℚ) / d = 1 / 2 := by
      have : (2 * r : ℚ) = d := by exact_mod_cast (by omega : 2 * r = d)
      field_simp
      linarith
    have h1 : (q : ℚ) ≤ m := by linarith
    have h2 : (m : ℚ) ≤ q + 1 := by linarith
    have h1' : q ≤ m := by exact_mod_cast h1
    have h2' : m ≤ q + 1 := by exact_mod_cast h2
    rcases Nat.eq_or_lt_of_le h1' with hq | hq
    · -- `m = q`: the value is the upper end, so `m` is even
      have heven : m % 2 = 0 := by
        rcases hhi with h | h
        · rw [← hq] at h; linarith
        · exact h.1
      rw [hq]
      simp [heven]
    · -- `m = q + 1`: the value is the lower end, so `m` is even and `q` odd
      have hm : m = q + 1 := by omega
      have heven : m % 2 = 0 := by
        rcases hlo with h | h
        · rw [hm] at h; push_cast at h; linarith
        · exact h.1
      have hodd : q % 2 = 1 := by omega
      simp [hodd, hm]

/-- The nearest integer is within half a unit of the value, and even at a tie. -/
theorem nearestQuotient_between {a d : Nat} (hd : 0 < d) :
    (((nearestQuotient a d : Nat) : ℚ) - 1/2 < a / d ∨
      (nearestQuotient a d % 2 = 0 ∧ ((nearestQuotient a d : Nat) : ℚ) - 1/2 = a / d)) ∧
    ((a : ℚ) / d < (nearestQuotient a d : Nat) + 1/2 ∨
      (nearestQuotient a d % 2 = 0 ∧ (a : ℚ) / d = (nearestQuotient a d : Nat) + 1/2)) := by
  have hx := div_eq_quotient_add a d hd
  have hdq : (0 : ℚ) < d := by exact_mod_cast hd
  have hr0 : (0 : ℚ) ≤ (a % d : Nat) / d := div_nonneg (Nat.cast_nonneg _) hdq.le
  have hr1 : ((a % d : Nat) : ℚ) / d < 1 := by
    rw [div_lt_iff₀ hdq, one_mul]
    exact_mod_cast Nat.mod_lt a hd
  unfold nearestQuotient
  split
  · rename_i hup
    have hhalf : (1 : ℚ) / 2 < (a % d : Nat) / d := by
      rw [lt_div_iff₀ hdq]
      have : (d : ℚ) < 2 * (a % d : Nat) := by exact_mod_cast hup
      linarith
    push_cast
    exact ⟨.inl (by linarith), .inl (by linarith)⟩
  split
  · rename_i _ hdown
    have hhalf : ((a % d : Nat) : ℚ) / d < 1 / 2 := by
      rw [div_lt_iff₀ hdq]
      have : (2 * (a % d : Nat) : ℚ) < d := by exact_mod_cast hdown
      linarith
    exact ⟨.inl (by linarith), .inl (by linarith)⟩
  · -- a tie: the quotient or the next, whichever is even
    rename_i hnup hndown
    have htie : ((a % d : Nat) : ℚ) / d = 1 / 2 := by
      have : (2 * (a % d : Nat) : ℚ) = d := by exact_mod_cast (by omega : 2 * (a % d) = d)
      field_simp
      linarith
    split
    · rename_i hodd
      have heven : (a / d + 1) % 2 = 0 := by
        simp only [beq_iff_eq] at hodd
        omega
      push_cast
      exact ⟨.inr ⟨heven, by linarith⟩, .inl (by linarith)⟩
    · rename_i hodd
      have heven : (a / d) % 2 = 0 := by
        simp only [beq_iff_eq] at hodd
        omega
      exact ⟨.inl (by linarith), .inr ⟨heven, by linarith⟩⟩

/-- The nearest integer depends on the value alone. -/
theorem nearestQuotient_congr {a d a' d' : Nat} (hd : 0 < d) (hd' : 0 < d')
    (h : (a : ℚ) / d = a' / d') : nearestQuotient a d = nearestQuotient a' d' := by
  obtain ⟨hlo, hhi⟩ := nearestQuotient_between (a := a') hd'
  rw [← h] at hlo hhi
  exact nearestQuotient_eq_of_between hd hlo hhi

/-- A quotient of naturals is the floor of the fraction. -/
theorem quotient_le_div (a d : Nat) (hd : 0 < d) :
    ((a / d : Nat) : ℚ) ≤ a / d ∧ (a : ℚ) / d < (a / d : Nat) + 1 := by
  have hx := div_eq_quotient_add a d hd
  have hdq : (0 : ℚ) < d := by exact_mod_cast hd
  have hr : ((a % d : Nat) : ℚ) < d := by exact_mod_cast Nat.mod_lt a hd
  have hr0 : (0 : ℚ) ≤ (a % d : Nat) / d := div_nonneg (Nat.cast_nonneg _) hdq.le
  have hr1 : ((a % d : Nat) : ℚ) / d < 1 := by rw [div_lt_iff₀ hdq]; linarith
  constructor <;> linarith

/-- The fraction the code divides on the grid `2^e` is the value over `2^e`. -/
theorem scaled_div_eq (num den : Nat) (e : Int) (hd : 0 < den) :
    ((num * 2 ^ (-e).toNat : Nat) : ℚ) / ((den * 2 ^ e.toNat : Nat) : ℚ) =
      ((num : ℚ) / den) / 2 ^ e := by
  have hdq : (den : ℚ) ≠ 0 := by exact_mod_cast hd.ne'
  rw [two_zpow_eq_div]
  push_cast
  field_simp

/-! ## The grid exponent -/

/-- `e` is the grid exponent of a positive value `v`: at least the least exponent, with `v`
below `2^53` units of `2^e`, and at least `2^52` of them unless `e` is the least exponent. -/
structure IsGrid (v : ℚ) (e : Int) : Prop where
  least : -1074 ≤ e
  below : v < 2 ^ 53 * 2 ^ e
  above : e = -1074 ∨ 2 ^ 52 * 2 ^ e ≤ v

/-- Of two grid exponents, neither is above the other. -/
theorem IsGrid.le {v : ℚ} {e e' : Int} (h : IsGrid v e) (h' : IsGrid v e') : e' ≤ e := by
  by_contra hlt
  rcases h'.above with h1 | h1
  · have := h.least
    omega
  · -- `2^52 * 2^e'` would be at most the value and yet at least `2^53 * 2^e`
    have hstep : (2 : ℚ) ^ (e + 1) ≤ 2 ^ e' := two_zpow_le_of_le (by omega)
    rw [zpow_add_one₀ (by norm_num)] at hstep
    have h53 : (2 : ℚ) ^ 53 * 2 ^ e = 2 ^ 52 * (2 ^ e * 2) := by ring
    have : (2 : ℚ) ^ 53 * 2 ^ e ≤ 2 ^ 52 * 2 ^ e' := by
      rw [h53]
      exact mul_le_mul_of_nonneg_left hstep (by positivity)
    linarith [h.below]

theorem IsGrid.unique {v : ℚ} {e e' : Int} (h : IsGrid v e) (h' : IsGrid v e') : e = e' :=
  le_antisymm (h'.le h) (h.le h')

/-- The value lies within a factor of four of `2^(log2 num - log2 den)`. -/
theorem div_bounds_log2 {num den : Nat} (hn : 0 < num) (hd : 0 < den) :
    let g : Int := (Nat.log2 num : Int) - Nat.log2 den - 52
    (2 : ℚ) ^ 51 * 2 ^ g < (num : ℚ) / den ∧ (num : ℚ) / den < 2 ^ 53 * 2 ^ g := by
  intro g
  have hdq : (0 : ℚ) < den := by exact_mod_cast hd
  have hn1 : (2 : ℚ) ^ Nat.log2 num ≤ num := by exact_mod_cast Nat.log2_self_le hn.ne'
  have hn2 : (num : ℚ) < 2 ^ (Nat.log2 num + 1) := by exact_mod_cast Nat.lt_log2_self
  have hd1 : (2 : ℚ) ^ Nat.log2 den ≤ den := by exact_mod_cast Nat.log2_self_le hd.ne'
  have hd2 : (den : ℚ) < 2 ^ (Nat.log2 den + 1) := by exact_mod_cast Nat.lt_log2_self
  -- both ends as one power of two times a power of the denominator's size
  have e1 : (2 : ℚ) ^ Nat.log2 num = 2 ^ 51 * 2 ^ g * 2 ^ (Nat.log2 den + 1) := by
    rw [← zpow_natCast, ← zpow_natCast 2 51, ← zpow_natCast 2 (Nat.log2 den + 1),
      ← zpow_add₀ (by norm_num), ← zpow_add₀ (by norm_num)]
    congr 1
    push_cast
    omega
  have e2 : (2 : ℚ) ^ (Nat.log2 num + 1) = 2 ^ 53 * 2 ^ g * 2 ^ Nat.log2 den := by
    rw [← zpow_natCast, ← zpow_natCast 2 53, ← zpow_natCast 2 (Nat.log2 den),
      ← zpow_add₀ (by norm_num), ← zpow_add₀ (by norm_num)]
    congr 1
    push_cast
    omega
  have hg : (0 : ℚ) < 2 ^ g := two_zpow_pos g
  constructor
  · rw [lt_div_iff₀ hdq]
    calc (2 : ℚ) ^ 51 * 2 ^ g * den < 2 ^ 51 * 2 ^ g * 2 ^ (Nat.log2 den + 1) :=
          mul_lt_mul_of_pos_left hd2 (by positivity)
      _ = 2 ^ Nat.log2 num := e1.symm
      _ ≤ num := hn1
  · rw [div_lt_iff₀ hdq]
    calc (num : ℚ) < 2 ^ (Nat.log2 num + 1) := hn2
      _ = 2 ^ 53 * 2 ^ g * 2 ^ Nat.log2 den := e2
      _ ≤ 2 ^ 53 * 2 ^ g * den := mul_le_mul_of_nonneg_left hd1 (by positivity)

/-- The grid floor the code computes is the floor of the value over `2^e`. -/
theorem gridFloor_eq (num den : Nat) (e : Int) :
    (if 0 ≤ e then num / (den * Nat.pow 2 e.toNat) else (num * Nat.pow 2 (-e).toNat) / den) =
      (num * 2 ^ (-e).toNat) / (den * 2 ^ e.toNat) := by
  have hpow : ∀ k, Nat.pow 2 k = 2 ^ k := fun _ => rfl
  rcases le_or_gt 0 e with h | h
  · have h1 : (-e).toNat = 0 := by omega
    simp only [if_pos h, hpow, h1, pow_zero, Nat.mul_one]
  · have h1 : e.toNat = 0 := by omega
    simp only [if_neg (not_le.2 h), hpow, h1, pow_zero, Nat.mul_one]

/-- `gridExponent` finds the grid exponent of the value. -/
theorem gridExponent_isGrid {num den : Nat} (hn : 0 < num) (hd : 0 < den) :
    IsGrid ((num : ℚ) / den) (gridExponent num den) := by
  obtain ⟨hlo, hhi⟩ := div_bounds_log2 hn hd
  unfold gridExponent
  dsimp only
  rw [gridFloor_eq]
  set g : Int := (Nat.log2 num : Int) - Nat.log2 den - 52
  set v : ℚ := (num : ℚ) / den
  set e := max g (-1074) with he
  -- the floor `f` of the value on the grid `2^e`
  set f := (num * 2 ^ (-e).toNat) / (den * 2 ^ e.toNat) with hf
  have hfl := quotient_le_div (num * 2 ^ (-e).toNat) (den * 2 ^ e.toNat)
    (Nat.mul_pos hd (Nat.two_pow_pos _))
  rw [← hf, scaled_div_eq num den e hd] at hfl
  have hE : (0 : ℚ) < 2 ^ e := two_zpow_pos e
  have hbelow : v < 2 ^ 53 * 2 ^ e := by
    calc v < 2 ^ 53 * 2 ^ g := hhi
      _ ≤ 2 ^ 53 * 2 ^ e := mul_le_mul_of_nonneg_left (two_zpow_le_of_le (le_max_left _ _))
          (by positivity)
  split
  · -- fewer than `2^52` units above the least exponent: the guess was one too high
    rename_i hsmall
    simp only [Bool.and_eq_true, decide_eq_true_eq, Nat.pow_eq] at hsmall
    obtain ⟨hf52, he1074⟩ := hsmall
    have heg : e = g := by omega
    have hf52' : (f : ℚ) + 1 ≤ 2 ^ 52 := by exact_mod_cast hf52
    have htwo := two_zpow_sub_one e
    refine ⟨by omega, ?_, .inr ?_⟩
    · -- the value is below `f + 1 ≤ 2^52` units of `2^e`
      have : v < (f + 1) * 2 ^ e := by rw [← div_lt_iff₀ hE]; exact hfl.2
      calc v < (f + 1) * 2 ^ e := this
        _ ≤ 2 ^ 52 * 2 ^ e := mul_le_mul_of_nonneg_right hf52' hE.le
        _ = 2 ^ 53 * 2 ^ (e - 1) := by rw [htwo]; ring
    · have hg' := two_zpow_sub_one g
      calc (2 : ℚ) ^ 52 * 2 ^ (e - 1) = 2 ^ 51 * 2 ^ g := by rw [heg, hg']; ring
        _ ≤ v := hlo.le
  · rename_i hbig
    simp only [Bool.and_eq_true, decide_eq_true_eq, Nat.pow_eq, not_and_or, not_lt] at hbig
    refine ⟨le_max_right _ _, hbelow, ?_⟩
    rcases hbig with hf52 | he1074
    · right
      have hf52' : (2 : ℚ) ^ 52 ≤ f := by exact_mod_cast hf52
      have : (f : ℚ) * 2 ^ e ≤ v := by rw [← le_div_iff₀ hE]; exact hfl.1
      calc (2 : ℚ) ^ 52 * 2 ^ e ≤ f * 2 ^ e := mul_le_mul_of_nonneg_right hf52' hE.le
        _ ≤ v := this
    · left
      omega

/-! ## Rounding to a double -/

/-- The rationals that round to the positive double `m * 2^q`: from halfway to the double
below to halfway to the double above, the ends included when `m` is even. Below the least
significand of a binade other than the least, the double below is half as far as the one
above. -/
def RoundsTo (m : Nat) (q : Int) (v : ℚ) : Prop :=
  let gap : ℚ := if m = 2 ^ 52 ∧ -1074 < q then 1 / 4 else 1 / 2
  ((m - gap) * 2 ^ q < v ∨ (m % 2 = 0 ∧ (m - gap) * 2 ^ q = v)) ∧
    (v < (m + 1 / 2) * 2 ^ q ∨ (m % 2 = 0 ∧ v = (m + 1 / 2) * 2 ^ q))

/-- A double's own value rounds to it. -/
theorem roundsTo_exact (m : Nat) (q : Int) : RoundsTo m q ((m : ℚ) * 2 ^ q) := by
  have hQ := two_zpow_pos q
  have hgap : (0 : ℚ) < if m = 2 ^ 52 ∧ -1074 < q then 1 / 4 else 1 / 2 := by
    split <;> norm_num
  refine ⟨.inl ?_, .inl ?_⟩
  · nlinarith
  · nlinarith

/-- `roundedOnGrid` rounds to `m` a value within half a unit of `m` units of the grid, and to
an even `m` at either end. -/
theorem roundedOnGrid_eq_of_between {num den m : Nat} {e : Int} (hd : 0 < den)
    (hlo : ((m : ℚ) - 1 / 2) * 2 ^ e < num / den ∨
      (m % 2 = 0 ∧ ((m : ℚ) - 1 / 2) * 2 ^ e = num / den))
    (hhi : (num : ℚ) / den < (m + 1 / 2) * 2 ^ e ∨
      (m % 2 = 0 ∧ (num : ℚ) / den = (m + 1 / 2) * 2 ^ e)) :
    roundedOnGrid num den e = m := by
  have hE := two_zpow_pos e
  rw [roundedOnGrid_eq]
  apply nearestQuotient_eq_of_between (Nat.mul_pos hd (Nat.two_pow_pos _))
  · rw [scaled_div_eq num den e hd]
    rcases hlo with h | ⟨hm, h⟩
    · exact .inl ((lt_div_iff₀ hE).2 h)
    · exact .inr ⟨hm, (eq_div_iff hE.ne').2 h⟩
  · rw [scaled_div_eq num den e hd]
    rcases hhi with h | ⟨hm, h⟩
    · exact .inl ((div_lt_iff₀ hE).2 h)
    · exact .inr ⟨hm, (div_eq_iff hE.ne').2 h⟩

theorem nearestBits_pos {num den : Nat} (hn : 0 < num) (hd : 0 < den) :
    (num == 0 || den == 0) = false := by
  simp [hn.ne', hd.ne']

/-- A significand rounded on its own grid packs as the encoding of the two. -/
theorem nearestBits_of_rounded {num den m : Nat} {q : Int} (hn : 0 < num) (hd : 0 < den)
    (he : gridExponent num den = q) (hr : roundedOnGrid num den q = m) (hf : Fields m q) :
    nearestBits num den = encodeBits m q := by
  have hm : m ≠ Nat.pow 2 53 := by
    show m ≠ 2 ^ 53
    rcases hf with h | h <;> omega
  have hq : ¬ q > 971 := by rcases hf with h | h <;> omega
  unfold nearestBits
  simp only [nearestBits_pos hn hd, he, hr, beq_iff_eq, if_neg hm, if_neg hq, Bool.false_eq_true,
    if_false]
  rfl

/-- A significand that rounds up to `2^53` on the grid below carries into the binade of `q`. -/
theorem nearestBits_of_carried {num den : Nat} {q : Int} (hn : 0 < num) (hd : 0 < den)
    (he : gridExponent num den = q - 1) (hr : roundedOnGrid num den (q - 1) = 2 ^ 53)
    (hq : q ≤ 971) :
    nearestBits num den = encodeBits (2 ^ 52) q := by
  have hcarry : (2 : Nat) ^ 53 = Nat.pow 2 53 := rfl
  unfold nearestBits
  simp only [nearestBits_pos hn hd, he, hr, hcarry, beq_self_eq_true, if_true, sub_add_cancel,
    if_neg (not_lt.2 hq), Bool.false_eq_true, if_false]
  rfl

/-- **Rounding.** A fraction that rounds to a double in range gives the bits of that double. -/
theorem nearestBits_eq_encodeBits {num den m : Nat} {q : Int} (hf : Fields m q)
    (hn : 0 < num) (hd : 0 < den) (hv : RoundsTo m q ((num : ℚ) / den)) :
    nearestBits num den = encodeBits m q := by
  simp only [RoundsTo] at hv
  obtain ⟨hlo, hhi⟩ := hv
  set v := (num : ℚ) / den with hvdef
  have hQ := two_zpow_pos q
  have hm53 : (m : ℚ) + 1 ≤ 2 ^ 53 := by
    have : m + 1 ≤ 2 ^ 53 := by rcases hf with h | h <;> omega
    exact_mod_cast this
  have hhi' : v ≤ (m + 1 / 2) * 2 ^ q := by rcases hhi with h | ⟨-, h⟩ <;> linarith
  have hgrid := gridExponent_isGrid hn hd
  by_cases hnarrow : m = 2 ^ 52 ∧ -1074 < q ∧ v < 2 ^ 52 * 2 ^ q
  · -- just below the least significand of a binade: the grid is one finer, and the value
    -- rounds up to `2^53` there
    obtain ⟨hm, hq, hv52⟩ := hnarrow
    have hb : m = 2 ^ 52 ∧ -1074 < q := ⟨hm, hq⟩
    rw [if_pos hb] at hlo
    have hmq : (m : ℚ) = 2 ^ 52 := by exact_mod_cast hm
    rw [hmq] at hlo
    have hlo' : ((2 : ℚ) ^ 52 - 1 / 4) * 2 ^ q ≤ v := by rcases hlo with h | ⟨-, h⟩ <;> linarith
    have htwo := two_zpow_sub_one q
    have hX := two_zpow_pos (q - 1)
    rw [htwo] at hv52 hlo'
    have hg : IsGrid v (q - 1) := ⟨by omega, by linarith, .inr (by linarith)⟩
    have hr : roundedOnGrid num den (q - 1) = 2 ^ 53 := by
      apply roundedOnGrid_eq_of_between hd
      · push_cast
        rcases hlo with h | ⟨-, h⟩
        · rw [htwo] at h
          exact .inl (by linarith)
        · rw [htwo] at h
          exact .inr ⟨by norm_num, by linarith⟩
      · push_cast
        exact .inl (by linarith)
    rw [hm]
    exact nearestBits_of_carried hn hd (hgrid.unique hg) hr (by rcases hf with h | h <;> omega)
  · -- otherwise the value is on the grid of `q` itself and rounds to `m` there
    have hlow : ((m : ℚ) - 1 / 2) * 2 ^ q < v ∨ (m % 2 = 0 ∧ ((m : ℚ) - 1 / 2) * 2 ^ q = v) := by
      by_cases hb : m = 2 ^ 52 ∧ -1074 < q
      · left
        have hnot : 2 ^ 52 * 2 ^ q ≤ v := not_lt.1 fun h => hnarrow ⟨hb.1, hb.2, h⟩
        have hmq : (m : ℚ) = 2 ^ 52 := by exact_mod_cast hb.1
        rw [hmq]
        linarith
      · rw [if_neg hb] at hlo
        exact hlo
    have hlow' : ((m : ℚ) - 1 / 2) * 2 ^ q ≤ v := by rcases hlow with h | ⟨-, h⟩ <;> linarith
    have habove : q = -1074 ∨ 2 ^ 52 * 2 ^ q ≤ v := by
      rcases eq_or_lt_of_le (show -1074 ≤ q by rcases hf with h | h <;> omega) with h | h
      · exact .inl h.symm
      · right
        have hm52 : 2 ^ 52 ≤ m := by rcases hf with hf | hf <;> omega
        rcases eq_or_lt_of_le hm52 with hm | hm
        · exact not_lt.1 fun hv => hnarrow ⟨hm.symm, h, hv⟩
        · have hm' : (2 : ℚ) ^ 52 + 1 ≤ m := by exact_mod_cast hm
          nlinarith
    have hg : IsGrid v q :=
      ⟨by rcases hf with h | h <;> omega, by nlinarith, habove⟩
    exact nearestBits_of_rounded hn hd (hgrid.unique hg)
      (roundedOnGrid_eq_of_between hd hlow hhi) hf

/-! ## Decimals -/

/-- A positive number of `len` digits lies between `10^(len-1)` and `10^len`. -/
theorem toDigits_length_bounds {M : Nat} (hM : 0 < M) :
    10 ^ ((Nat.toDigits 10 M).length - 1) ≤ M ∧ M < 10 ^ (Nat.toDigits 10 M).length := by
  have hpos := Nat.length_toDigits_pos (b := 10) (n := M)
  refine ⟨?_, (Nat.length_toDigits_le_iff (by decide) hpos).1 le_rfl⟩
  rcases Nat.lt_or_ge 1 (Nat.toDigits 10 M).length with h | h
  · by_contra hlt
    have := (Nat.length_toDigits_le_iff (b := 10) (n := M) (by decide) (by omega)).2
      (Nat.lt_of_not_le hlt)
    omega
  · have : (Nat.toDigits 10 M).length - 1 = 0 := by omega
    rw [this, pow_zero]
    exact hM

theorem ten_zpow_pos (e : Int) : (0 : ℚ) < 10 ^ e := zpow_pos (by norm_num) e

/-- A value that rounds to a double is positive. -/
theorem RoundsTo.pos {m : Nat} {q : Int} {v : ℚ} (hf : Fields m q) (hv : RoundsTo m q v) :
    0 < v := by
  simp only [RoundsTo] at hv
  have hm : (1 : ℚ) ≤ m := by
    have : 1 ≤ m := by rcases hf with h | h <;> omega
    exact_mod_cast this
  have hQ := two_zpow_pos q
  have hgap : (m : ℚ) - (if m = 2 ^ 52 ∧ -1074 < q then 1 / 4 else 1 / 2) ≥ 1 / 2 := by
    split <;> linarith
  have hlow : 0 < ((m : ℚ) - (if m = 2 ^ 52 ∧ -1074 < q then 1 / 4 else 1 / 2)) * 2 ^ q :=
    mul_pos (by linarith) hQ
  rcases hv.1 with h | ⟨-, h⟩ <;> linarith

/-- A value that rounds to a double is below `2^53 * 2^971`, and at least `2^-1075`. -/
theorem RoundsTo.bounds {m : Nat} {q : Int} {v : ℚ} (hf : Fields m q) (hv : RoundsTo m q v) :
    (2 : ℚ) ^ (-1075 : Int) ≤ v ∧ v < 2 ^ 53 * 2 ^ (971 : Int) := by
  have hpos := hv.pos hf
  simp only [RoundsTo] at hv
  have hQ := two_zpow_pos q
  have hm53 : (m : ℚ) + 1 ≤ 2 ^ 53 := by
    have : m + 1 ≤ 2 ^ 53 := by rcases hf with h | h <;> omega
    exact_mod_cast this
  have hm : (1 : ℚ) ≤ m := by
    have : 1 ≤ m := by rcases hf with h | h <;> omega
    exact_mod_cast this
  have hq1 : (2 : ℚ) ^ (-1075 : Int) * 2 ≤ 2 ^ q := by
    rw [← zpow_add_one₀ (by norm_num)]
    exact two_zpow_le_of_le (by rcases hf with h | h <;> omega)
  have hq2 : (2 : ℚ) ^ q ≤ 2 ^ (971 : Int) := two_zpow_le_of_le (by rcases hf with h | h <;> omega)
  have hgap : (m : ℚ) - (if m = 2 ^ 52 ∧ -1074 < q then 1 / 4 else 1 / 2) ≥ 1 / 2 := by
    split <;> linarith
  have htop : ((m : ℚ) + 1 / 2) * 2 ^ q < 2 ^ 53 * 2 ^ (971 : Int) :=
    mul_lt_mul (by linarith) hq2 hQ (by positivity)
  constructor
  · rcases hv.1 with h | ⟨-, h⟩ <;> nlinarith
  · rcases hv.2 with h | ⟨-, h⟩
    · exact h.trans htop
    · exact h ▸ htop

/-- The powers of ten the decimal reader's guard compares against, placed around the range
of doubles. -/
theorem range_of_doubles_in_tens :
    (2 : ℚ) ^ 53 * 2 ^ (971 : Int) < 10 ^ (310 : Int) ∧
      (10 : ℚ) ^ (-331 : Int) < 2 ^ (-1075 : Int) := by
  constructor
  · rw [zpow_ofNat, zpow_ofNat]
    exact_mod_cast (by decide +kernel : (2 : ℕ) ^ 53 * 2 ^ 971 < 10 ^ 310)
  · rw [zpow_neg, zpow_neg, inv_lt_inv₀ (by positivity) (by positivity), zpow_ofNat, zpow_ofNat]
    exact_mod_cast (by decide +kernel : (2 : ℕ) ^ 1075 < 10 ^ 331)

/-- **Decimals.** `nearest` gives the double a decimal `±M * 10^E` rounds to. -/
theorem nearest_eq_of_roundsTo {M m : Nat} {E q : Int} (neg : Bool) (hf : Fields m q)
    (hv : RoundsTo m q ((M : ℚ) * 10 ^ E)) :
    nearest neg M E =
      Float.ofBits (if neg then encodeBits m q ||| 0x8000000000000000 else encodeBits m q) := by
  obtain ⟨hlo, hhi⟩ := hv.bounds hf
  have hpos := hv.pos hf
  have hM : 0 < M := by
    rcases Nat.eq_zero_or_pos M with h | h
    · rw [h] at hpos; simp at hpos
    · exact h
  obtain ⟨hM1, hM2⟩ := toDigits_length_bounds hM
  have hlen : 1 ≤ (Nat.toDigits 10 M).length := Nat.length_toDigits_pos
  have hE := ten_zpow_pos E
  obtain ⟨h1024, h1075⟩ := range_of_doubles_in_tens
  -- the number of digits and the exponent place the value within the range of doubles
  have hupper : ((Nat.toDigits 10 M).length : Int) + E ≤ 310 := by
    by_contra hgt
    have hk : (10 : ℚ) ^ (310 : Int) ≤ 10 ^ (((Nat.toDigits 10 M).length - 1 : Nat) + E) :=
      zpow_le_zpow_right₀ (by norm_num) (by omega)
    have h1 : (10 : ℚ) ^ (((Nat.toDigits 10 M).length - 1 : Nat) + E) ≤ M * 10 ^ E := by
      rw [zpow_add₀ (by norm_num), zpow_natCast]
      exact mul_le_mul_of_nonneg_right (by exact_mod_cast hM1) hE.le
    exact lt_irrefl _ ((hk.trans (h1.trans hhi.le)).trans_lt h1024)
  have hlower : -330 ≤ ((Nat.toDigits 10 M).length : Int) + E := by
    by_contra hlt
    have hk : (10 : ℚ) ^ (((Nat.toDigits 10 M).length : Nat) + E) ≤ 10 ^ (-331 : Int) :=
      zpow_le_zpow_right₀ (by norm_num) (by omega)
    have h1 : (M : ℚ) * 10 ^ E < 10 ^ (((Nat.toDigits 10 M).length : Nat) + E) := by
      rw [zpow_add₀ (by norm_num), zpow_natCast]
      exact mul_lt_mul_of_pos_right (by exact_mod_cast hM2) hE
    exact lt_irrefl _ ((h1075.trans_le hlo).trans (h1.trans_le hk))
  have hpow10 : ∀ k, Nat.pow 10 k = 10 ^ k := fun _ => rfl
  -- the magnitude: the decimal as a fraction, with the power of ten on the side of its sign
  have hmag : (if 0 ≤ E then nearestBits (M * 10 ^ E.toNat) 1 else nearestBits M (10 ^ (-E).toNat))
      = encodeBits m q := by
    split
    · rename_i h0
      apply nearestBits_eq_encodeBits hf (by positivity) Nat.one_pos
      push_cast
      rwa [div_one, ← zpow_natCast, Int.toNat_of_nonneg h0]
    · rename_i h0
      apply nearestBits_eq_encodeBits hf hM (by positivity)
      push_cast
      rwa [← zpow_natCast, Int.toNat_of_nonneg (by omega), div_eq_mul_inv, ← zpow_neg, neg_neg]
  unfold nearest
  simp only [beq_iff_eq, hM.ne', if_false, hpow10]
  rw [if_neg (not_lt.2 hupper), if_neg (not_lt.2 hlower), hmag]

end CodingAgent.Decimal
