import CodingAgent.Proofs.FloatBits

/-!
# Operations on doubles in range

What the logical model of `Float` computes on the doubles `encodeBits` builds, for the
operations that scaling by a power of two uses:

* `unpack_encodeBits` and `toModel_unpack_ofBits`: the model unpacks an encoding to its
  fields, and `pack_normal` packs normal fields back to the encoding;
* `isInf_ofBits_encodeBits`: an encoding is no infinity;
* `le_ofBits_normal_iff`: two normal positive doubles compare by exponent, then significand;
* `div_ofBits_normal`: dividing a normal double by a power of two above the subnormal range
  is exact: the significand stays and the exponents subtract.
-/

namespace CodingAgent.Decimal

open Float.Model Float.Model.UnpackedFloat

/-- Normal fields: a significand of exactly 53 bits. -/
def Normal (m : Nat) (q : Int) : Prop :=
  2 ^ 52 ≤ m ∧ m < 2 ^ 53 ∧ -1074 ≤ q ∧ q ≤ 971

theorem Normal.fields {m : Nat} {q : Int} (h : Normal m q) : Fields m q := .inl h

theorem log2_of_normal {m : Nat} (h1 : 2 ^ 52 ≤ m) (h2 : m < 2 ^ 53) : m.log2 = 52 := by
  have hge : 52 ≤ m.log2 := (Nat.le_log2 (by omega)).2 h1
  have hlt : m.log2 < 53 := (Nat.log2_lt (by omega)).2 h2
  omega

/-! ## Unpacking and packing -/

/-- The model unpacks an encoding to its fields, with the positive sign. -/
theorem unpack_encodeBits {m : Nat} {q : Int} (hf : Fields m q) :
    ∃ h, UnpackedFloat.unpack Format.binary64 (encodeBits m q).toBitVec =
      .finite .positive m q h := by
  have hE := encodeBits_exponent hf
  have hM := encodeBits_mantissa hf
  have hS := encodeBits_lt hf
  generalize encodeBits m q = B at hE hM hS
  have hb : B.toBitVec.toNat = B.toNat := rfl
  have hsign : signOf B.toBitVec = .positive := by
    have h0 : (@unpackSign Format.binary64 B.toBitVec) = 0#1 := by
      apply BitVec.eq_of_toNat_eq
      rw [unpackSign_toNat, hb]
      exact Nat.div_eq_of_lt hS
    simp only [signOf, h0]
    rfl
  by_cases hm : 2 ^ 52 ≤ m
  · rw [if_pos hm] at hE hM
    obtain ⟨hpos, hu⟩ := unpack_normal B.toBitVec
      (by rw [hb]; rcases hf with h | h <;> omega) (by rw [hb]; rcases hf with h | h <;> omega)
    refine ⟨by omega, ?_⟩
    rw [hu, hsign]
    congr 1
    · omega
    · rcases hf with h | h <;> omega
  · rw [if_neg hm] at hE hM
    have hq : q = -1074 := by rcases hf with h | h <;> omega
    obtain ⟨hpos, hu⟩ := unpack_subnormal B.toBitVec (by rw [hb]; exact hE)
      (by rw [hb]; rcases hf with h | h <;> omega)
    refine ⟨by omega, ?_⟩
    rw [hu, hsign, hq]
    congr 1

/-- The model of a double built from a pattern that is no NaN unpacks that pattern. -/
theorem toModel_unpack_ofBits (B : UInt64)
    (hnan : B.toNat / 2^52 % 2^11 = 2047 → B.toNat % 2^52 = 0) :
    (Float.ofBits B).toModel.unpack = UnpackedFloat.unpack Format.binary64 B.toBitVec := by
  show UnpackedFloat.unpack Format.binary64 (UInt64.ofBitVec
    (UnpackedFloat.pack Format.binary64 (UnpackedFloat.unpack Format.binary64 B.toBitVec))).toBitVec
      = _
  rw [UInt64.toBitVec_ofBitVec, pack_unpack B.toBitVec hnan]

/-- Normal positive fields pack to their encoding. -/
theorem pack_normal {m : Nat} {q : Int} (hn : Normal m q) (h : 0 < m) :
    UnpackedFloat.pack Format.binary64 (.finite .positive m q h) = (encodeBits m q).toBitVec := by
  obtain ⟨h1, h2, h3, h4⟩ := hn
  have hlog : m.log2 + 1 = Format.binary64.mantissaBits := by
    rw [log2_of_normal h1 h2]
    rfl
  have hbiased : (q + (Format.binary64.exponentBias : Nat) +
      (Format.binary64.mantissaBitsWithoutImplicit : Nat)).toNat = (q + 1075).toNat := by
    show (q + 1023 + 52).toNat = _
    omega
  unfold UnpackedFloat.pack
  rw [hbiased, if_neg (by show ¬ 2 ^ 11 ≤ (q + 1075).toNat + 1; omega), if_pos hlog]
  apply BitVec.eq_of_toNat_eq
  rw [packComponents_toNat, BitVec.toNat_ofNat, BitVec.toNat_ofNat]
  show 0 * 2 ^ 63 + (q + 1075).toNat % 2 ^ 11 * 2 ^ 52 + m % 2 ^ 52 = (encodeBits m q).toNat
  rw [encodeBits_toNat (Normal.fields ⟨h1, h2, h3, h4⟩), if_pos h1]
  omega

/-- An encoding unpacks, inside a `Float`, to its fields. -/
theorem unpack_ofBits_encodeBits {m : Nat} {q : Int} (hf : Fields m q) :
    ∃ h, (Float.ofBits (encodeBits m q)).toModel.unpack = .finite .positive m q h := by
  rw [toModel_unpack_ofBits _ (encodeBits_not_nan hf)]
  exact unpack_encodeBits hf

/-- An encoding is no infinity. -/
theorem isInf_ofBits_encodeBits {m : Nat} {q : Int} (hf : Fields m q) :
    (Float.ofBits (encodeBits m q)).isInf = false := by
  obtain ⟨h, hu⟩ := unpack_ofBits_encodeBits hf
  show (Float.ofBits (encodeBits m q)).toModel.unpack.isInf = false
  rw [hu]
  rfl

/-! ## Comparison -/

/-- Two normal positive doubles compare by exponent first, then by significand. -/
theorem le_ofBits_normal_iff {m₁ m₂ : Nat} {q₁ q₂ : Int} (h₁ : Normal m₁ q₁) (h₂ : Normal m₂ q₂) :
    Float.ofBits (encodeBits m₁ q₁) ≤ Float.ofBits (encodeBits m₂ q₂) ↔
      q₁ < q₂ ∨ (q₁ = q₂ ∧ m₁ ≤ m₂) := by
  obtain ⟨hp₁, hu₁⟩ := unpack_ofBits_encodeBits h₁.fields
  obtain ⟨hp₂, hu₂⟩ := unpack_ofBits_encodeBits h₂.fields
  show Float.le _ _ = true ↔ _
  unfold Float.le
  rw [decide_eq_true_iff]
  show (Float.ofBits (encodeBits m₁ q₁)).toModel.unpack.le
    (Float.ofBits (encodeBits m₂ q₂)).toModel.unpack = true ↔ _
  rw [hu₁, hu₂]
  simp only [UnpackedFloat.le, UnpackedFloat.compare, Option.any_some]
  rcases lt_trichotomy q₁ q₂ with hq | hq | hq
  · simp [compare_lt_iff_lt.2 hq, hq]
  · subst hq
    rcases lt_trichotomy m₁ m₂ with hm | hm | hm
    · simp [compare_lt_iff_lt.2 hm, hm.le]
    · subst hm
      simp
    · simp [compare_gt_iff_gt.2 hm, Nat.not_le.2 hm]
  · simp [compare_gt_iff_gt.2 hq, not_lt.2 hq.le, hq.ne']

/-! ## Division by a power of two -/

theorem divCore_by_power {m : Nat} {q e : Int} (h1 : 2 ^ 52 ≤ m) (h2 : m < 2 ^ 53)
    (hq : -1073 ≤ q - e - 52) :
    divCore Format.binary64 m q (2 ^ 52) e = (2 * m, q - e - 53, .exact) := by
  have hlog : (2 ^ 52 : Nat).log2 = 52 := log2_of_normal le_rfl (by omega)
  unfold divCore
  simp only [totalExponent, Format.targetExponent, Format.mantissaBits, Format.minExponent,
    log2_of_normal h1 h2, hlog]
  have ht : min (q - e) (max ((52 : Nat) + 1 + q - ((52 : Nat) + 1 + e) - (1 + 52 : Nat))
      (3 - 2 ^ (11 - 1) - (1 + 52 : Nat))) = q - e - 53 := by
    rw [max_eq_left (by omega), min_eq_right (by omega)]
    omega
  rw [ht]
  have hs : (q - e - (q - e - 53)).toNat = 53 := by omega
  rw [hs, Nat.shiftLeft_eq]
  have hsplit : m * 2 ^ 53 = 2 * m * 2 ^ 52 := by ring
  rw [hsplit, Nat.mul_div_cancel _ (Nat.two_pow_pos 52), Nat.mul_mod_left]
  rfl

/-- Shifting twice a 53-bit significand to its target exponent halves it, exactly. -/
theorem shiftToTargetExponent_double {m : Nat} {e : Int} (h1 : 2 ^ 52 ≤ m) (h2 : m < 2 ^ 53)
    (he : -1074 ≤ e + 1) :
    shiftToTargetExponent Format.binary64 (2 * m) e .exact = (⟨m, false, false⟩, e + 1) := by
  have hlog2 : (2 * m).log2 = 53 := by
    have hge : 53 ≤ (2 * m).log2 := (Nat.le_log2 (by omega)).2 (by omega)
    have hlt : (2 * m).log2 < 54 := (Nat.log2_lt (by omega)).2 (by omega)
    omega
  unfold shiftToTargetExponent shiftToExponent
  simp only [totalExponent, Format.targetExponent, Format.mantissaBits, Format.minExponent, hlog2]
  have hs : (max ((53 : Nat) + 1 + e - (1 + 52 : Nat)) (3 - 2 ^ (11 - 1) - (1 + 52 : Nat)) -
      e).toNat = 1 := by
    rw [max_eq_left (by omega)]
    omega
  rw [hs]
  show (ExtendedMantissa.shiftRightOne ⟨2 * m, false, false⟩, e + ((1 : Nat) : Int)) = _
  simp [ExtendedMantissa.shiftRightOne, Nat.mul_mod_right]

/-- A 53-bit significand is already at its target exponent. -/
theorem shiftToTargetExponent_normal {m : Nat} {e : Int} (h1 : 2 ^ 52 ≤ m) (h2 : m < 2 ^ 53)
    (he : -1074 ≤ e) :
    shiftToTargetExponent Format.binary64 m e .exact = (⟨m, false, false⟩, e) := by
  unfold shiftToTargetExponent shiftToExponent
  simp only [totalExponent, Format.targetExponent, Format.mantissaBits, Format.minExponent,
    log2_of_normal h1 h2]
  have hs : (max ((52 : Nat) + 1 + e - (1 + 52 : Nat)) (3 - 2 ^ (11 - 1) - (1 + 52 : Nat)) -
      e).toNat = 0 := by
    rw [max_eq_left (by omega)]
    omega
  rw [hs]
  show (ExtendedMantissa.ofMantissaAndAccuracy m .exact, e + ((0 : Nat) : Int)) = _
  simp [ExtendedMantissa.ofMantissaAndAccuracy]

/-- Rounding twice a 53-bit significand, exactly, halves it and raises the exponent. -/
theorem roundWithAccuracy_double {m : Nat} {e : Int} (h1 : 2 ^ 52 ≤ m) (h2 : m < 2 ^ 53)
    (he : -1074 ≤ e + 1) :
    roundWithAccuracy Format.binary64 .positive (2 * m) e .exact =
      .finite .positive m (e + 1) (by omega) := by
  unfold roundWithAccuracy
  rw [shiftToTargetExponent_double h1 h2 he]
  have hround : (ExtendedMantissa.roundedMantissa ⟨m, false, false⟩) = m := rfl
  simp only [hround, shiftToTargetExponent_normal h1 h2 he]
  rw [dif_neg (show ¬ m = 0 by omega)]

/-- Dividing a normal double by a power of two above the subnormal range is exact. -/
theorem div_finite_power {m : Nat} {q e : Int} (h1 : 2 ^ 52 ≤ m) (h2 : m < 2 ^ 53)
    (hq : -1073 ≤ q - e - 52) (hp : 0 < m) (hp' : 0 < 2 ^ 52) :
    UnpackedFloat.div Format.binary64 (.finite .positive m q hp) (.finite .positive (2 ^ 52) e hp') =
      .finite .positive m (q - e - 52) hp := by
  unfold UnpackedFloat.div
  dsimp only
  rw [divCore_by_power h1 h2 hq]
  show roundWithAccuracy Format.binary64 .positive (2 * m) (q - e - 53) .exact = _
  rw [roundWithAccuracy_double h1 h2 (by omega)]
  congr 1
  omega

/-- **Scaling.** A normal double divided by the double `2^(52 + e)`, a power of two at least
one, is the double with the same significand and the exponent `e + 52` lower, when that stays
normal. -/
theorem div_ofBits_normal {m : Nat} {q e : Int} (hx : Normal m q) (hy : Normal (2 ^ 52) e)
    (he : -52 ≤ e) (hq : -1073 ≤ q - e - 52) :
    Float.ofBits (encodeBits m q) / Float.ofBits (encodeBits (2 ^ 52) e) =
      Float.ofBits (encodeBits m (q - e - 52)) := by
  have hz : Normal m (q - e - 52) := ⟨hx.1, hx.2.1, by omega, by have := hx.2.2.2; omega⟩
  obtain ⟨hp, hux⟩ := unpack_ofBits_encodeBits hx.fields
  obtain ⟨hp', huy⟩ := unpack_ofBits_encodeBits hy.fields
  apply eq_of_toBits_eq
  rw [toBits_ofBits _ (encodeBits_not_nan hz.fields)]
  show UInt64.ofBitVec (UnpackedFloat.pack Format.binary64 (UnpackedFloat.div Format.binary64
    (Float.ofBits (encodeBits m q)).toModel.unpack
    (Float.ofBits (encodeBits (2 ^ 52) e)).toModel.unpack)) = _
  rw [hux, huy, div_finite_power hx.1 hx.2.1 hq, pack_normal hz]

end CodingAgent.Decimal
