import CodingAgent.Proofs.FloatOps
import CodingAgent.Proofs.NearestDouble
import CodingAgent.Tool.Size
import Mathlib.Tactic.IntervalCases

/-!
# Sizes in units of 1024

`formatSize` divides a size by 1024 while it is at least 1024 and a larger unit is left, then
writes the quotient with two decimals and drops trailing zeros. For an integer size below
`2^53` every division is exact in doubles, so the text is the exact quotient, rounded once:

* `sizeUnit n`: the unit `formatSize` settles on, the number of divisions;
* `scaleDown_whole`: the loop ends at `sizeUnit n` with the double `n / 1024^i`, built from
  the normal significand of `n` (`normal_of_size`) as its exponent drops by ten per unit;
* `fixed_two_places` and `dropTrailingZeros_twoPlaces`: two places of a double are its hundredths
  rounded to the nearest, ties to even, and without trailing zeros they are `shownHundredths`;
* `formatSize_whole_spec`: the text of every size below `2^53`, with what its number means:
  the quotient rounded to hundredths, so within half a hundredth of it, and at most 1024 below
  the largest unit.

The unit is chosen before the quotient is rounded, so a quotient just below 1024 shows as
`1024` in the smaller unit (`formatSize_just_below_mebibyte`).
-/

namespace CodingAgent.Tool

open CodingAgent.Decimal

/-- The unit a size below `2^53` settles on: how many times it is divided by 1024. -/
def sizeUnit (n : Nat) : Nat :=
  if n < 1024 then 0 else if n < 1024 ^ 2 then 1 else if n < 1024 ^ 3 then 2 else 3

/-- A number of hundredths with at most two decimals, no trailing zero and no trailing
point. -/
def shownHundredths (u : Nat) : String :=
  if u % 100 = 0 then toString (u / 100)
  else if u % 10 = 0 then toString (u / 100) ++ "." ++ toString (u / 10 % 10)
  else toString (u / 100) ++ "." ++ toString (u / 10 % 10) ++ toString (u % 10)

/-! ## The doubles of a size -/

/-- A size below `2^53` is its 53-bit significand times a power of two. -/
theorem normal_of_size {n : Nat} (h1 : 1 ≤ n) (h2 : n < 2 ^ 53) :
    2 ^ 52 ≤ n * 2 ^ (52 - n.log2) ∧ n * 2 ^ (52 - n.log2) < 2 ^ 53 ∧
      ((n * 2 ^ (52 - n.log2) : Nat) : ℚ) * 2 ^ ((n.log2 : Int) - 52) = n := by
  have hk1 : 2 ^ n.log2 ≤ n := Nat.log2_self_le (by omega)
  have hk2 : n < 2 ^ (n.log2 + 1) := Nat.lt_log2_self
  have hk : n.log2 ≤ 52 := Nat.le_of_lt_succ ((Nat.log2_lt (by omega)).2 h2)
  have hsplit : (2 : Nat) ^ 52 = 2 ^ n.log2 * 2 ^ (52 - n.log2) := by
    rw [← Nat.pow_add]; congr 1; omega
  refine ⟨?_, ?_, ?_⟩
  · rw [hsplit]
    exact Nat.mul_le_mul_right _ hk1
  · calc n * 2 ^ (52 - n.log2) < 2 ^ (n.log2 + 1) * 2 ^ (52 - n.log2) :=
          Nat.mul_lt_mul_of_pos_right hk2 (Nat.two_pow_pos _)
      _ = 2 ^ 53 := by rw [← Nat.pow_add]; congr 1; omega
  · push_cast
    rw [mul_assoc, ← zpow_natCast, ← zpow_add₀ (by norm_num)]
    have : (((52 - n.log2 : Nat) : Int) + ((n.log2 : Int) - 52)) = 0 := by omega
    rw [this, zpow_zero, mul_one]

/-- The quotient of a size by 1024 is exact in doubles. -/
theorem divideWhole_eq {n : Nat} (h1 : 1024 ≤ n) (h2 : n < 2 ^ 53) :
    divideWhole n =
      Float.ofBits (encodeBits (n * 2 ^ (52 - n.log2)) ((n.log2 : Int) - 62)) := by
  obtain ⟨hm1, hm2, hval⟩ := normal_of_size (by omega) h2
  have hk : 10 ≤ n.log2 := (Nat.le_log2 (by omega)).2 (by omega)
  have hk' : n.log2 ≤ 52 := Nat.le_of_lt_succ ((Nat.log2_lt (by omega)).2 h2)
  have hf : Fields (n * 2 ^ (52 - n.log2)) ((n.log2 : Int) - 62) := .inl ⟨hm1, hm2, by omega, by omega⟩
  unfold divideWhole
  rw [nearestBits_eq_encodeBits hf (by omega) (by norm_num)]
  -- `n / 1024` is the significand times `2^(log2 n - 62)`
  have hv : ((n : Nat) : ℚ) / ((1024 : Nat) : ℚ) =
      ((n * 2 ^ (52 - n.log2) : Nat) : ℚ) * 2 ^ ((n.log2 : Int) - 62) := by
    rw [show ((n.log2 : Int) - 62) = ((n.log2 : Int) - 52) + (-10) by ring,
      zpow_add₀ (by norm_num), ← mul_assoc, hval, zpow_neg]
    norm_num [div_eq_mul_inv]
  rw [hv]
  exact roundsTo_exact _ _

theorem float_1024_eq : (1024.0 : Float) = Float.ofBits (encodeBits (2 ^ 52) (-42)) := by
  decide

theorem normal_1024 : Normal (2 ^ 52) (-42) := ⟨le_rfl, by norm_num, by norm_num, by norm_num⟩

/-- One turn of the loop on a normal double: divide while it is at least 1024, which is
when its exponent is at least `-42`. -/
theorem scaleDown_real_step {m : Nat} {q : Int} (hx : Normal m q) (hq : -1063 ≤ q)
    (fuel i : Nat) :
    scaleDown (fuel + 1) (.real (Float.ofBits (encodeBits m q))) i =
      if -42 ≤ q then scaleDown fuel (.real (Float.ofBits (encodeBits m (q - 10)))) (i + 1)
      else .ok (.real (Float.ofBits (encodeBits m q)), i) := by
  have hle : (Float.ofBits (encodeBits m q) ≥ 1024.0) ↔ -42 ≤ q := by
    rw [GE.ge, float_1024_eq, le_ofBits_normal_iff normal_1024 hx]
    have := hx.1
    omega
  have hdiv : Float.ofBits (encodeBits m q) / 1024.0 = Float.ofBits (encodeBits m (q - 10)) := by
    rw [float_1024_eq, div_ofBits_normal hx normal_1024 (by norm_num) (by omega)]
    congr 2
    ring
  rw [scaleDown]
  by_cases h : -42 ≤ q
  · rw [if_pos (hle.2 h), if_pos h, hdiv]
  · rw [if_neg (mt hle.1 h), if_neg h]

/-- **The loop.** A size below `2^53` ends as itself below 1024, and otherwise as the double
`n / 1024^i` for its unit `i`. -/
theorem scaleDown_whole {n : Nat} (h2 : n < 2 ^ 53) :
    scaleDown 3 (.whole n) 0 =
      if n < 1024 then .ok (.whole n, 0)
      else .ok (.real (Float.ofBits (encodeBits (n * 2 ^ (52 - n.log2))
        ((n.log2 : Int) - 52 - 10 * sizeUnit n))), sizeUnit n) := by
  by_cases h1 : n < 1024
  · rw [if_pos h1]
    simp only [scaleDown]
    rw [if_neg (by omega)]
  · rw [if_neg h1]
    obtain ⟨hm1, hm2, -⟩ := normal_of_size (by omega) h2
    have hk : 10 ≤ n.log2 := (Nat.le_log2 (by omega)).2 (by omega)
    have hk' : n.log2 ≤ 52 := Nat.le_of_lt_succ ((Nat.log2_lt (by omega)).2 h2)
    have hdiv := divideWhole_eq (by omega) h2
    set m := n * 2 ^ (52 - n.log2)
    set k : Int := (n.log2 : Int) with hk_def
    have hn : ∀ q : Int, -1074 ≤ q → q ≤ 971 → Normal m q := fun q h h' => ⟨hm1, hm2, h, h'⟩
    -- the binade of `n` decides each comparison with 1024
    have h20 : n < 1024 ^ 2 ↔ n.log2 < 20 := by rw [Nat.log2_lt (by omega)]; norm_num
    have h30 : n < 1024 ^ 3 ↔ n.log2 < 30 := by rw [Nat.log2_lt (by omega)]; norm_num
    have hfirst : scaleDown 3 (.whole n) 0 = scaleDown 2 (.real (Float.ofBits (encodeBits m (k - 62)))) 1 := by
      rw [show (3 : Nat) = 2 + 1 from rfl, scaleDown, if_pos (by omega), Int.toNat_natCast, hdiv]
      dsimp only
      rw [isInf_ofBits_encodeBits (hn (k - 62) (by omega) (by omega)).fields]
      rfl
    rw [hfirst, scaleDown_real_step (hn (k - 62) (by omega) (by omega)) (by omega)]
    by_cases hb : n < 1024 ^ 2
    · have hu : sizeUnit n = 1 := by simp only [sizeUnit, if_neg h1, if_pos hb]
      have := h20.1 hb
      rw [if_neg (by omega), hu, show k - 52 - 10 * ((1 : Nat) : Int) = k - 62 by omega]
    · have := mt h20.2 hb
      rw [if_pos (by omega), scaleDown_real_step (hn (k - 62 - 10) (by omega) (by omega)) (by omega)]
      by_cases hc : n < 1024 ^ 3
      · have hu : sizeUnit n = 2 := by simp only [sizeUnit, if_neg h1, if_neg hb, if_pos hc]
        have := h30.1 hc
        rw [if_neg (by omega), hu, show k - 52 - 10 * ((2 : Nat) : Int) = k - 62 - 10 by omega]
      · have hu : sizeUnit n = 3 := by simp only [sizeUnit, if_neg h1, if_neg hb, if_neg hc]
        have := mt h30.2 hc
        rw [if_pos (by omega), hu, scaleDown, show k - 52 - 10 * ((3 : Nat) : Int) = k - 62 - 10 - 10 by omega]

/-! ## Two places and no trailing zeros -/

/-- `u` hundredths written with exactly two places. -/
def twoPlaces (u : Nat) : String :=
  digitText (u / 100) ++ "." ++ String.ofList [Nat.digitChar (u / 10 % 10), Nat.digitChar (u % 10)]

theorem toList_toString (n : Nat) : (toString n).toList = Nat.toDigits 10 n := by
  rw [show toString n = String.ofList (Nat.toDigits 10 n) from rfl, String.toList_ofList]

/-- Padding the digits of `u` to three puts its hundreds before its last two digits. -/
theorem padded_digits (u : Nat) :
    List.replicate (3 - (Nat.toDigits 10 u).length) '0' ++ Nat.toDigits 10 u =
      Nat.toDigits 10 (u / 100) ++ [Nat.digitChar (u / 10 % 10), Nat.digitChar (u % 10)] := by
  by_cases h10 : u < 10
  · have h0 : u / 100 = 0 := by omega
    rw [Nat.toDigits_of_lt_base h10, h0, Nat.toDigits_of_lt_base (by norm_num),
      show u / 10 % 10 = 0 by omega, Nat.mod_eq_of_lt h10]
    rfl
  · rw [Nat.toDigits_of_base_le (by norm_num) (by omega)]
    by_cases h100 : u < 100
    · have h0 : u / 100 = 0 := by omega
      rw [Nat.toDigits_of_lt_base (by omega : u / 10 < 10), h0, Nat.toDigits_of_lt_base (by norm_num),
        Nat.mod_eq_of_lt (by omega : u / 10 < 10)]
      rfl
    · rw [Nat.toDigits_of_base_le (by norm_num) (by omega : 10 ≤ u / 10), Nat.div_div_eq_div_mul]
      have hlen : 3 ≤ (Nat.toDigits 10 (u / (10 * 10)) ++ [Nat.digitChar (u / 10 % 10)] ++
          [Nat.digitChar (u % 10)]).length := by
        simp only [List.length_append, List.length_singleton]
        have := Nat.length_toDigits_pos (b := 10) (n := u / (10 * 10))
        omega
      rw [Nat.sub_eq_zero_of_le hlen, List.replicate_zero, List.nil_append, List.append_assoc]
      rfl

/-- Two places of a positive double: its hundredths, rounded to the nearest and to the even
one at a tie, split before the last two digits. -/
theorem fixed_two_places {x : Float} {b : Binary} (hx : Kind.ofFloat x = .finite b)
    (hneg : b.neg = false) :
    fixed 2 x = twoPlaces (nearestQuotient (b.m * 2 ^ b.q.toNat * 10 ^ 2) (2 ^ (-b.q).toNat)) := by
  obtain ⟨u, hu⟩ : ∃ u, nearestQuotient (b.m * 2 ^ b.q.toNat * 10 ^ 2) (2 ^ (-b.q).toNat) = u :=
    ⟨_, rfl⟩
  rw [hu]
  unfold nearestQuotient at hu
  simp only [fixed, hx, hneg, Nat.pow_eq]
  rw [hu]
  -- the padded digits are the hundreds, then the two places
  have hpad : zeros (2 + 1 - (digitText u).length) ++ digitText u =
      String.ofList (Nat.toDigits 10 (u / 100) ++ [Nat.digitChar (u / 10 % 10), Nat.digitChar (u % 10)]) := by
    rw [zeros, digitText, String.length_ofList, ← String.ofList_append, padded_digits]
  have hcut : (Nat.toDigits 10 (u / 100) ++ [Nat.digitChar (u / 10 % 10), Nat.digitChar (u % 10)]).length - 2 =
      (Nat.toDigits 10 (u / 100)).length := by
    simp
  rw [hpad, String.length_ofList, hcut, String.toList_ofList, List.take_left, List.drop_left]
  rfl

theorem digitChar_eq_zero_iff {d : Nat} (h : d < 10) : Nat.digitChar d = '0' ↔ d = 0 := by
  interval_cases d <;> decide

/-- Without trailing zeros, two places are the hundredths as `shownHundredths` writes them. -/
theorem dropTrailingZeros_twoPlaces (u : Nat) : dropTrailingZeros (twoPlaces u) = shownHundredths u := by
  have hdot : ∀ d : Nat, ¬ ((Nat.digitChar d == '.') = true) := fun d h =>
    Nat.digitChar_ne '.' (by decide) (beq_iff_eq.1 h)
  have h0 := digitChar_eq_zero_iff (Nat.mod_lt u (by norm_num : 10 > 0))
  have h1 := digitChar_eq_zero_iff (Nat.mod_lt (u / 10) (by norm_num : 10 > 0))
  rw [dropTrailingZeros, String.ext_iff, String.toList_ofList]
  simp only [twoPlaces, digitText, shownHundredths, String.toList_append, String.toList_ofList]
  set D := Nat.toDigits 10 (u / 100) with hD
  have hrev : ∀ c₁ c₀ : Char, (D ++ ".".toList ++ [c₁, c₀]).reverse = c₀ :: c₁ :: '.' :: D.reverse := by
    simp
  rw [hrev]
  by_cases hu : u % 100 = 0
  · -- both places are zero: the point goes too, and the hundreds end in a digit
    rw [if_pos hu, toList_toString, h0.2 (by omega), h1.2 (by omega)]
    obtain ⟨c, cs, hc⟩ : ∃ c cs, D.reverse = c :: cs := by
      cases h : D.reverse with
      | nil => exact absurd (List.reverse_eq_nil_iff.1 h) Nat.toDigits_ne_nil
      | cons c cs => exact ⟨c, cs, rfl⟩
    have hc' : ¬ ((c == '.') = true) := by
      intro h
      have hmem : c ∈ D := by
        rw [← List.mem_reverse, hc]; exact List.mem_cons_self
      have := Nat.isDigit_of_mem_toDigits (by norm_num) (by norm_num) hmem
      rw [beq_iff_eq.1 h] at this
      exact absurd this (by decide)
    have hstep : List.dropWhile (fun x => x == '.')
        (List.dropWhile (fun x => x == '0') ('0' :: '0' :: '.' :: c :: cs)) = c :: cs := by
      simp [hc']
    rw [hc, hstep, ← hc, List.reverse_reverse]
  rw [if_neg hu]
  by_cases hu' : u % 10 = 0
  · -- the last place is zero and the first is not
    have hne : ¬ ((Nat.digitChar (u / 10 % 10) == '0') = true) := fun h =>
      hu (by have := h1.1 (beq_iff_eq.1 h); omega)
    rw [if_pos hu', h0.2 hu']
    simp only [String.toList_append, toList_toString]
    rw [Nat.toDigits_of_lt_base (Nat.mod_lt _ (by norm_num))]
    simp [hne, hdot, hD]
  · have hne : ¬ ((Nat.digitChar (u % 10) == '0') = true) := fun h => hu' (h0.1 (beq_iff_eq.1 h))
    rw [if_neg hu']
    simp only [String.toList_append, toList_toString]
    rw [Nat.toDigits_of_lt_base (Nat.mod_lt _ (by norm_num)),
      Nat.toDigits_of_lt_base (Nat.mod_lt _ (by norm_num))]
    simp [hne, hdot, hD]

/-! ## The text of a size -/

/-- The unit of a size is the largest one it reaches, with 1024 times it out of reach below
the largest. -/
theorem sizeUnit_bounds (n : Nat) :
    (sizeUnit n = 0 ∨ 1024 ^ sizeUnit n ≤ n) ∧ (sizeUnit n < 3 → n < 1024 ^ (sizeUnit n + 1)) := by
  unfold sizeUnit
  split_ifs <;> omega

/-- The nearest hundredths to `a / d` are within half a hundredth of it, and even at a tie. -/
theorem nearestQuotient_hundredths (a : Nat) {d : Nat} (hd : 0 < d) :
    |((nearestQuotient (100 * a) d : Nat) : ℚ) / 100 - a / d| ≤ 1 / 200 ∧
      (|((nearestQuotient (100 * a) d : Nat) : ℚ) / 100 - a / d| = 1 / 200 →
        nearestQuotient (100 * a) d % 2 = 0) := by
  obtain ⟨hlo, hhi⟩ := nearestQuotient_between (a := 100 * a) hd
  set u := nearestQuotient (100 * a) d
  have hscale : ((100 * a : Nat) : ℚ) / d = 100 * (a / d) := by push_cast; ring
  rw [hscale] at hlo hhi
  constructor
  · rw [abs_le]
    constructor
    · rcases hhi with h | ⟨-, h⟩ <;> linarith
    · rcases hlo with h | ⟨-, h⟩ <;> linarith
  · intro htie
    rcases abs_eq (by norm_num : (0 : ℚ) ≤ 1 / 200) |>.1 htie with h | h
    · rcases hlo with h' | h'
      · linarith
      · exact h'.1
    · rcases hhi with h' | h'
      · linarith
      · exact h'.1

/-- Rounding never passes a whole bound on the value. -/
theorem nearestQuotient_le {a d c : Nat} (hd : 0 < d) (h : a < c * d) : nearestQuotient a d ≤ c := by
  obtain ⟨hlo, -⟩ := nearestQuotient_between (a := a) hd
  have hdq : (0 : ℚ) < d := by exact_mod_cast hd
  have hv : (a : ℚ) / d < c := by
    rw [div_lt_iff₀ hdq]
    exact_mod_cast h
  have : ((nearestQuotient a d : Nat) : ℚ) < c + 1 / 2 := by
    rcases hlo with h' | ⟨-, h'⟩ <;> linarith
  have : ((nearestQuotient a d : Nat) : ℚ) < c + 1 := by linarith
  exact_mod_cast Nat.lt_succ_iff.1 (by exact_mod_cast this)

/-- The text of a size below `2^53` is its hundredths in its unit, rounded once. -/
theorem formatSize_whole_eq {n : Nat} (hn : n < 2 ^ 53) :
    formatSize (.whole n) = .ok (shownHundredths (nearestQuotient (100 * n) (1024 ^ sizeUnit n)) ++
      " " ++ sizeUnits.getD (sizeUnit n) "B") := by
  unfold formatSize
  rw [scaleDown_whole hn]
  by_cases h1 : n < 1024
  · -- below 1024 the size is written as it is, and it is its own hundredths
    have hu : sizeUnit n = 0 := by simp only [sizeUnit, if_pos h1]
    have hq : nearestQuotient (100 * n) (1024 ^ 0) = 100 * n := by
      simp [nearestQuotient, Nat.mod_one]
    rw [if_pos h1, hu, hq, shownHundredths, if_pos (by omega), Nat.mul_div_cancel_left _ (by norm_num)]
    rfl
  · rw [if_neg h1]
    obtain ⟨hm1, hm2, -⟩ := normal_of_size (by omega) hn
    have hk : 10 ≤ n.log2 := (Nat.le_log2 (by omega)).2 (by omega)
    have hk' : n.log2 ≤ 52 := Nat.le_of_lt_succ ((Nat.log2_lt (by omega)).2 hn)
    have hi : 1 ≤ sizeUnit n ∧ sizeUnit n ≤ 3 := by unfold sizeUnit; split_ifs <;> omega
    set q : Int := (n.log2 : Int) - 52 - 10 * sizeUnit n
    have hf : Fields (n * 2 ^ (52 - n.log2)) q := .inl ⟨hm1, hm2, by omega, by omega⟩
    -- the double's hundredths are those of `n / 1024^i`
    have hval : (((n * 2 ^ (52 - n.log2)) * 2 ^ q.toNat * 10 ^ 2 : Nat) : ℚ) / ((2 ^ (-q).toNat : Nat) : ℚ) =
        ((100 * n : Nat) : ℚ) / ((1024 ^ sizeUnit n : Nat) : ℚ) := by
      have hq0 : q.toNat = 0 := by omega
      have hj : (-q).toNat = (52 - n.log2) + 10 * sizeUnit n := by omega
      rw [hq0, hj, pow_add, pow_mul]
      push_cast
      field_simp
    simp only [bind, Except.bind, pure, Except.pure]
    rw [fixed_two_places (Kind.ofFloat_ofBits_encodeBits hf) rfl, dropTrailingZeros_twoPlaces,
      nearestQuotient_congr (Nat.two_pow_pos _) (by positivity) hval]

/-- **The text of a size.** A size below `2^53` is written as its hundredths `u` in its unit
`i`, the largest unit it reaches: `u / 100` is within half a hundredth of `n / 1024^i`, the even
one of two equally near, and below the largest unit it is at most 1024. -/
theorem formatSize_whole_spec (n : Nat) (hn : n < 2 ^ 53) :
    ∃ u : Nat, formatSize (.whole n) =
        .ok (shownHundredths u ++ " " ++ sizeUnits.getD (sizeUnit n) "B") ∧
      (sizeUnit n = 0 ∨ 1024 ^ sizeUnit n ≤ n) ∧ (sizeUnit n < 3 → n < 1024 ^ (sizeUnit n + 1)) ∧
      |(u : ℚ) / 100 - n / 1024 ^ sizeUnit n| ≤ 1 / 200 ∧
      (|(u : ℚ) / 100 - n / 1024 ^ sizeUnit n| = 1 / 200 → u % 2 = 0) ∧
      (sizeUnit n < 3 → u ≤ 102400) := by
  have hd : 0 < 1024 ^ sizeUnit n := by positivity
  obtain ⟨hclose, htie⟩ := nearestQuotient_hundredths n hd
  obtain ⟨hlow, hhigh⟩ := sizeUnit_bounds n
  push_cast at hclose htie
  refine ⟨_, formatSize_whole_eq hn, hlow, hhigh, hclose, htie, fun h3 => nearestQuotient_le hd ?_⟩
  -- below the largest unit, `100 n < 100 * 1024^(i+1) = 102400 * 1024^i`
  have := hhigh h3
  rw [pow_succ] at this
  omega

theorem formatSize_whole_spec_at_mebibyte :
    (1048575 : Nat) < 2 ^ 53 ∧ ∃ u : Nat, formatSize (.whole (1048575 : Nat)) =
        .ok (shownHundredths u ++ " " ++ sizeUnits.getD (sizeUnit 1048575) "B") ∧
      (sizeUnit 1048575 = 0 ∨ 1024 ^ sizeUnit 1048575 ≤ 1048575) ∧
      (sizeUnit 1048575 < 3 → 1048575 < 1024 ^ (sizeUnit 1048575 + 1)) ∧
      |(u : ℚ) / 100 - (1048575 : Nat) / 1024 ^ sizeUnit 1048575| ≤ 1 / 200 ∧
      (|(u : ℚ) / 100 - (1048575 : Nat) / 1024 ^ sizeUnit 1048575| = 1 / 200 → u % 2 = 0) ∧
      (sizeUnit 1048575 < 3 → u ≤ 102400) :=
  ⟨by norm_num, formatSize_whole_spec 1048575 (by norm_num)⟩

example : formatSize (.whole 1536) = .ok "1.5 KB" := by rfl

/-- The unit is chosen before the quotient is rounded: one byte short of a mebibyte is
`1023.999…` kibibytes, which rounds to `1024`. -/
theorem formatSize_just_below_mebibyte : formatSize (.whole 1048575) = .ok "1024 KB" := by
  rfl

end CodingAgent.Tool
