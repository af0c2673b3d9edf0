import Mathlib
import CodingAgent.Decimal.Binary

/-!
# Doubles and their bits

`Float` is, in the logic, a wrapper around the 64 bits of a double, and its operations go
through `Float.Model`: `Float.ofBits` unpacks the bits into a sign, a significand and an
exponent and packs them again. This module reads the fields of a bit pattern as numbers and
shows that the round trip keeps every pattern that is not a NaN (`toBits_ofBits`), so a double
is known once its bits are (`Float.eq_of_toBits_eq`).

`encodeBits m q` is the positive double `m * 2^q` for fields in range (`Fields m q`): a normal
significand of 53 bits with an exponent from -1074 to 971, or a subnormal one at -1074. It is
what `nearestBits` packs, `Kind.ofBits` reads it back (`Kind.ofBits_encodeBits`), and every
finite nonzero pattern is such an encoding with or without the sign bit
(`eq_encodeBits_of_ofBits`).
-/

namespace CodingAgent.Decimal

open Float.Model Float.Model.UnpackedFloat

/-- Bit patterns of doubles. -/
abbrev Bits64 := BitVec Format.binary64.numBits

/-! ## Fields of a pattern -/

theorem sign_toBitVec_ofBitVec : ∀ s : BitVec 1, (Sign.ofBitVec s).toBitVec = s := by decide

theorem packComponents_toNat (s : Sign) (e : BitVec 11) (m : BitVec 52) :
    (packComponents Format.binary64 s e m).toNat =
      s.toBitVec.toNat * 2^63 + e.toNat * 2^52 + m.toNat := by
  simp only [packComponents, BitVec.toNat_append]
  rw [← Nat.shiftLeft_add_eq_or_of_lt m.isLt, ← Nat.shiftLeft_add_eq_or_of_lt e.isLt,
    Nat.shiftLeft_eq, Nat.shiftLeft_eq]
  ring

theorem unpackExponent_toNat (b : Bits64) :
    (@unpackExponent Format.binary64 b).toNat = b.toNat / 2^52 % 2^11 := by
  simp [unpackExponent, Nat.shiftRight_eq_div_pow]

theorem unpackMantissa_toNat (b : Bits64) :
    (@unpackMantissa Format.binary64 b).toNat = b.toNat % 2^52 := by
  simp [unpackMantissa]

theorem unpackSign_toNat (b : Bits64) :
    (@unpackSign Format.binary64 b).toNat = b.toNat / 2^63 := by
  have h : b.toNat < 2^64 := b.isLt
  simp [unpackSign, Nat.shiftRight_eq_div_pow]
  omega

/-- A pattern is its sign, exponent and significand fields put together. -/
theorem packComponents_fields (b : Bits64) :
    packComponents Format.binary64 (Sign.ofBitVec (@unpackSign Format.binary64 b))
      (@unpackExponent Format.binary64 b) (@unpackMantissa Format.binary64 b) = b := by
  apply BitVec.eq_of_toNat_eq
  rw [packComponents_toNat, sign_toBitVec_ofBitVec, unpackSign_toNat, unpackExponent_toNat,
    unpackMantissa_toNat]
  have h : b.toNat < 2^64 := b.isLt
  omega

theorem exponent_eq_allOnes_iff (b : Bits64) :
    @unpackExponent Format.binary64 b = -1#_ ↔ b.toNat / 2^52 % 2^11 = 2047 := by
  rw [← unpackExponent_toNat, ← BitVec.toNat_inj]
  rfl

theorem exponent_eq_zero_iff (b : Bits64) :
    @unpackExponent Format.binary64 b = 0#_ ↔ b.toNat / 2^52 % 2^11 = 0 := by
  rw [← unpackExponent_toNat, ← BitVec.toNat_inj]
  rfl

theorem mantissa_eq_zero_iff (b : Bits64) :
    @unpackMantissa Format.binary64 b = 0#_ ↔ b.toNat % 2^52 = 0 := by
  rw [← unpackMantissa_toNat, ← BitVec.toNat_inj]
  rfl

/-! ## Unpacking, one case per class of pattern -/

section Unpack

variable (b : Bits64)

/-- The sign a pattern unpacks with. -/
abbrev signOf : Sign := Sign.ofBitVec (@unpackSign Format.binary64 b)

theorem unpack_normal (h0 : b.toNat / 2^52 % 2^11 ≠ 0) (h1 : b.toNat / 2^52 % 2^11 ≠ 2047) :
    ∃ hm, UnpackedFloat.unpack Format.binary64 b =
      .finite (signOf b) (2^52 + b.toNat % 2^52) ((b.toNat / 2^52 % 2^11 : Nat) - 1075) hm := by
  refine ⟨by omega, ?_⟩
  unfold UnpackedFloat.unpack
  rw [if_neg (mt (exponent_eq_allOnes_iff b).1 h1), if_neg (mt (exponent_eq_zero_iff b).1 h0)]
  congr 1
  · simp only [BitVec.toNat_append, unpackMantissa_toNat]
    rw [← Nat.shiftLeft_add_eq_or_of_lt (Nat.mod_lt _ (by omega)), Nat.shiftLeft_eq]
    rfl
  · rw [unpackExponent_toNat]
    rfl

theorem unpack_subnormal (h0 : b.toNat / 2^52 % 2^11 = 0) (hm : b.toNat % 2^52 ≠ 0) :
    ∃ hpos, UnpackedFloat.unpack Format.binary64 b =
      .finite (signOf b) (b.toNat % 2^52) (-1074) hpos := by
  refine ⟨Nat.pos_of_ne_zero hm, ?_⟩
  unfold UnpackedFloat.unpack
  rw [if_neg (by rw [exponent_eq_allOnes_iff]; omega), if_pos ((exponent_eq_zero_iff b).2 h0),
    dif_neg (mt (mantissa_eq_zero_iff b).1 hm)]
  simp only [unpackMantissa_toNat]
  congr 1
  rw [unpackExponent_toNat, h0]
  rfl

theorem unpack_zero (h0 : b.toNat / 2^52 % 2^11 = 0) (hm : b.toNat % 2^52 = 0) :
    UnpackedFloat.unpack Format.binary64 b = .zero (signOf b) := by
  unfold UnpackedFloat.unpack
  rw [if_neg (by rw [exponent_eq_allOnes_iff]; omega), if_pos ((exponent_eq_zero_iff b).2 h0),
    dif_pos ((mantissa_eq_zero_iff b).2 hm)]

theorem unpack_infinity (h1 : b.toNat / 2^52 % 2^11 = 2047) (hm : b.toNat % 2^52 = 0) :
    UnpackedFloat.unpack Format.binary64 b = .infinity (signOf b) := by
  unfold UnpackedFloat.unpack
  rw [if_pos ((exponent_eq_allOnes_iff b).2 h1), if_pos ((mantissa_eq_zero_iff b).2 hm)]

end Unpack

/-! ## Packing the unpacked pattern -/

/-- A pattern put together from its own fields, named as a case found them. -/
theorem packComponents_eq_self {b : Bits64} {e : BitVec 11} {m : BitVec 52}
    (he : @unpackExponent Format.binary64 b = e) (hm : @unpackMantissa Format.binary64 b = m) :
    packComponents Format.binary64 (signOf b) e m = b := by
  subst he hm
  exact packComponents_fields b

/-- Packing an unpacked pattern that is not a NaN gives the pattern back. -/
theorem pack_unpack (b : Bits64)
    (hnan : b.toNat / 2^52 % 2^11 = 2047 → b.toNat % 2^52 = 0) :
    UnpackedFloat.pack Format.binary64 (UnpackedFloat.unpack Format.binary64 b) = b := by
  have hlt : b.toNat < 2^64 := b.isLt
  by_cases h1 : b.toNat / 2^52 % 2^11 = 2047
  · rw [unpack_infinity b h1 (hnan h1)]
    exact packComponents_eq_self ((exponent_eq_allOnes_iff b).2 h1)
      ((mantissa_eq_zero_iff b).2 (hnan h1))
  by_cases h0 : b.toNat / 2^52 % 2^11 = 0
  · by_cases hm : b.toNat % 2^52 = 0
    · rw [unpack_zero b h0 hm]
      exact packComponents_eq_self ((exponent_eq_zero_iff b).2 h0) ((mantissa_eq_zero_iff b).2 hm)
    · -- subnormal: the biased exponent is 1 and the significand is below 2^52
      obtain ⟨hpos, hu⟩ := unpack_subnormal b h0 hm
      rw [hu]
      have hlog : ¬ (b.toNat % 2^52).log2 + 1 = Format.binary64.mantissaBits := by
        have : (b.toNat % 2^52).log2 < 52 :=
          (Nat.log2_lt (by omega)).2 (Nat.mod_lt _ (by omega))
        show ¬ _ + 1 = 53
        omega
      unfold UnpackedFloat.pack
      rw [if_neg (by decide), if_neg hlog]
      refine packComponents_eq_self ((exponent_eq_zero_iff b).2 h0) ?_
      apply BitVec.eq_of_toNat_eq
      rw [unpackMantissa_toNat, BitVec.toNat_ofNat]
      exact (Nat.mod_mod_of_dvd _ (dvd_refl _)).symm
  · -- normal: the biased exponent is the stored one and the leading bit is implicit
    obtain ⟨hpos, hu⟩ := unpack_normal b h0 h1
    rw [hu]
    have hE : b.toNat / 2^52 % 2^11 < 2^11 := Nat.mod_lt _ (by omega)
    have hM : b.toNat % 2^52 < 2^52 := Nat.mod_lt _ (by omega)
    have hlog : (2^52 + b.toNat % 2^52).log2 + 1 = Format.binary64.mantissaBits := by
      have hge : 52 ≤ (2^52 + b.toNat % 2^52).log2 := (Nat.le_log2 (by omega)).2 (by omega)
      have hlt' : (2^52 + b.toNat % 2^52).log2 < 53 := (Nat.log2_lt (by omega)).2 (by omega)
      show _ + 1 = 53
      omega
    have hbiased : ((((b.toNat / 2^52 % 2^11 : Nat) : Int) - 1075) +
        (Format.binary64.exponentBias : Nat) +
        (Format.binary64.mantissaBitsWithoutImplicit : Nat)).toNat = b.toNat / 2^52 % 2^11 := by
      show ((((b.toNat / 2^52 % 2^11 : Nat) : Int) - 1075 + 1023 + 52)).toNat = _
      omega
    unfold UnpackedFloat.pack
    rw [hbiased, if_neg (by show ¬ 2^11 ≤ _ + 1; omega), if_pos hlog]
    refine packComponents_eq_self ?_ ?_
    · apply BitVec.eq_of_toNat_eq
      rw [unpackExponent_toNat, BitVec.toNat_ofNat]
      exact (Nat.mod_eq_of_lt hE).symm
    · apply BitVec.eq_of_toNat_eq
      rw [unpackMantissa_toNat, BitVec.toNat_ofNat]
      show _ = (2^52 + b.toNat % 2^52) % 2^52
      omega

/-! ## Doubles are their bits -/

/-- The bits of a double built from a pattern that is not a NaN are that pattern. -/
theorem toBits_ofBits (B : UInt64) (hnan : B.toNat / 2^52 % 2^11 = 2047 → B.toNat % 2^52 = 0) :
    (Float.ofBits B).toBits = B := by
  show UInt64.ofBitVec (UnpackedFloat.pack Format.binary64
    (UnpackedFloat.unpack Format.binary64 B.toBitVec)) = B
  rw [pack_unpack B.toBitVec hnan]

/-- Two doubles with the same bits are equal. -/
theorem eq_of_toBits_eq {x y : Float} (h : x.toBits = y.toBits) : x = y := by
  obtain ⟨⟨bx, vx⟩⟩ := x
  obtain ⟨⟨by', vy⟩⟩ := y
  change bx = by' at h
  subst h
  rfl

/-! ## Encoding fields -/

/-- The bits of the positive double `m * 2^q`, packed as `nearestBits` packs them. -/
def encodeBits (m : Nat) (q : Int) : UInt64 :=
  if m ≥ Nat.pow 2 52 then UInt64.ofNat ((((q + 1075).toNat) <<< 52) ||| (m - Nat.pow 2 52))
  else UInt64.ofNat m

/-- Fields in the range of doubles: a significand of 53 bits with an exponent from -1074 to
971, or a smaller nonzero significand at the least exponent. -/
def Fields (m : Nat) (q : Int) : Prop :=
  (2^52 ≤ m ∧ m < 2^53 ∧ -1074 ≤ q ∧ q ≤ 971) ∨ (0 < m ∧ m < 2^52 ∧ q = -1074)

theorem encodeBits_toNat {m : Nat} {q : Int} (h : Fields m q) :
    (encodeBits m q).toNat = if 2^52 ≤ m then (q + 1075).toNat * 2^52 + (m - 2^52) else m := by
  unfold encodeBits
  by_cases hm : 2^52 ≤ m
  · have hq : (q + 1075).toNat < 2^11 := by rcases h with h | h <;> omega
    have hlow : m - 2^52 < 2^52 := by rcases h with h | h <;> omega
    rw [if_pos (show m ≥ Nat.pow 2 52 from hm), if_pos hm, UInt64.toNat_ofNat',
      show Nat.pow 2 52 = 2^52 from rfl, ← Nat.shiftLeft_add_eq_or_of_lt hlow, Nat.shiftLeft_eq]
    apply Nat.mod_eq_of_lt
    calc (q + 1075).toNat * 2^52 + (m - 2^52) < 2^11 * 2^52 := by omega
      _ ≤ 2^64 := by decide
  · have hlt : m < 2^64 := by omega
    rw [if_neg (show ¬ m ≥ Nat.pow 2 52 from hm), if_neg hm, UInt64.toNat_ofNat',
      Nat.mod_eq_of_lt hlt]

/-- The exponent field of an encoding. -/
theorem encodeBits_exponent {m : Nat} {q : Int} (h : Fields m q) :
    (encodeBits m q).toNat / 2^52 % 2^11 = if 2^52 ≤ m then (q + 1075).toNat else 0 := by
  rw [encodeBits_toNat h]
  by_cases hm : 2^52 ≤ m
  · rw [if_pos hm, if_pos hm]
    rcases h with h | h <;> omega
  · rw [if_neg hm, if_neg hm]
    omega

/-- The significand field of an encoding. -/
theorem encodeBits_mantissa {m : Nat} {q : Int} (h : Fields m q) :
    (encodeBits m q).toNat % 2^52 = if 2^52 ≤ m then m - 2^52 else m := by
  rw [encodeBits_toNat h]
  by_cases hm : 2^52 ≤ m
  · rw [if_pos hm, if_pos hm]
    rcases h with h | h <;> omega
  · rw [if_neg hm, if_neg hm]
    omega

/-- An encoding has its sign bit clear. -/
theorem encodeBits_lt {m : Nat} {q : Int} (h : Fields m q) : (encodeBits m q).toNat < 2^63 := by
  rw [encodeBits_toNat h]
  split <;> rcases h with h | h <;> omega

/-- An encoding is no NaN. -/
theorem encodeBits_not_nan {m : Nat} {q : Int} (h : Fields m q) :
    (encodeBits m q).toNat / 2^52 % 2^11 = 2047 → (encodeBits m q).toNat % 2^52 = 0 := by
  rw [encodeBits_exponent h]
  intro he
  split at he <;> rcases h with h | h <;> omega

/-! ## Reading fields back -/

theorem sign_field (B : UInt64) : (B >>> 63 == 1) = decide (B.toNat / 2^63 = 1) := by
  have hlt : B.toNat < 2^64 := B.toNat_lt
  rw [Bool.eq_iff_iff, beq_iff_eq, decide_eq_true_iff, ← UInt64.toNat_inj, UInt64.toNat_shiftRight]
  simp only [Nat.shiftRight_eq_div_pow]
  rfl

theorem exponent_field (B : UInt64) : ((B >>> 52) &&& 0x7FF).toNat = B.toNat / 2^52 % 2^11 := by
  rw [UInt64.toNat_and, UInt64.toNat_shiftRight]
  simp only [Nat.shiftRight_eq_div_pow]
  exact Nat.and_two_pow_sub_one_eq_mod _ 11

theorem mantissa_field (B : UInt64) : (B &&& 0xFFFFFFFFFFFFF).toNat = B.toNat % 2^52 := by
  rw [UInt64.toNat_and]
  exact Nat.and_two_pow_sub_one_eq_mod _ 52

/-- What `Kind.ofBits` reads, in terms of the fields of the pattern as numbers. -/
theorem Kind.ofBits_eq (B : UInt64) :
    Kind.ofBits B =
      if B.toNat / 2^52 % 2^11 = 2047 then
        (if B.toNat % 2^52 = 0 then .infinite (decide (B.toNat / 2^63 = 1)) else .nan)
      else if B.toNat / 2^52 % 2^11 = 0 then
        .finite ⟨decide (B.toNat / 2^63 = 1), B.toNat % 2^52, -1074, false⟩
      else .finite ⟨decide (B.toNat / 2^63 = 1), 2^52 + B.toNat % 2^52,
        ((B.toNat / 2^52 % 2^11 : Nat) : Int) - 1075,
        B.toNat % 2^52 == 0 && B.toNat / 2^52 % 2^11 > 1⟩ := by
  simp only [Kind.ofBits, sign_field, exponent_field, mantissa_field, beq_iff_eq,
    show Nat.pow 2 52 = 2^52 from rfl]

/-- An encoding reads back as its fields. -/
theorem Kind.ofBits_encodeBits {m : Nat} {q : Int} (h : Fields m q) :
    Kind.ofBits (encodeBits m q) = .finite ⟨false, m, q, decide (m = 2^52 ∧ -1074 < q)⟩ := by
  have hsign : (encodeBits m q).toNat / 2^63 = 0 := Nat.div_eq_of_lt (encodeBits_lt h)
  rw [Kind.ofBits_eq, encodeBits_exponent h, encodeBits_mantissa h, hsign]
  by_cases hm : 2^52 ≤ m
  · have hq1 : (q + 1075).toNat ≠ 2047 := by rcases h with h | h <;> omega
    have hq2 : (q + 1075).toNat ≠ 0 := by rcases h with h | h <;> omega
    simp only [if_pos hm]
    rw [if_neg hq1, if_neg hq2]
    simp only [Kind.finite.injEq, Binary.mk.injEq]
    refine ⟨rfl, by omega, by omega, ?_⟩
    rw [Bool.eq_iff_iff]
    simp only [Bool.and_eq_true, beq_iff_eq, decide_eq_true_eq]
    omega
  · have hq : q = -1074 := by rcases h with h | h <;> omega
    simp only [if_neg hm]
    rw [if_neg (by decide), if_pos trivial]
    simp only [Kind.finite.injEq, Binary.mk.injEq]
    refine ⟨rfl, trivial, hq.symm, ?_⟩
    simp only [hq, lt_self_iff_false, and_false, decide_false]

/-- A double built from an encoding reads as its fields. -/
theorem Kind.ofFloat_ofBits_encodeBits {m : Nat} {q : Int} (h : Fields m q) :
    Kind.ofFloat (Float.ofBits (encodeBits m q)) =
      .finite ⟨false, m, q, decide (m = 2^52 ∧ -1074 < q)⟩ := by
  unfold Kind.ofFloat
  rw [toBits_ofBits _ (encodeBits_not_nan h), Kind.ofBits_encodeBits h]

/-! ## Every finite pattern is an encoding -/

/-- A pattern is its sign bit on top of the rest. -/
theorem toNat_eq_sign_add (B : UInt64) :
    B.toNat = (if decide (B.toNat / 2^63 = 1) then 2^63 else 0) + B.toNat % 2^63 := by
  have hlt : B.toNat < 2^64 := B.toNat_lt
  by_cases hs : B.toNat / 2^63 = 1
  · rw [if_pos (decide_eq_true hs)]
    omega
  · rw [if_neg (by simpa using hs)]
    omega

/-- A finite pattern with a nonzero significand is the encoding of its fields, with the sign
bit on top, and it is narrow below exactly at the least significand of a binade other than
the least. -/
theorem eq_encodeBits_of_ofBits {B : UInt64} {b : Binary} (h : Kind.ofBits B = .finite b)
    (hm : b.m ≠ 0) :
    Fields b.m b.q ∧ b.narrowBelow = decide (b.m = 2^52 ∧ -1074 < b.q) ∧
      B.toNat = (if b.neg then 2^63 else 0) + (encodeBits b.m b.q).toNat := by
  have hlt : B.toNat < 2^64 := B.toNat_lt
  have hsign := toNat_eq_sign_add B
  rw [Kind.ofBits_eq] at h
  split at h
  · split at h <;> cases h
  split at h
  · -- subnormal: the exponent field is zero
    injection h with h
    subst h
    dsimp only at hm ⊢
    have hf : Fields (B.toNat % 2^52) (-1074) :=
      .inr ⟨Nat.pos_of_ne_zero hm, Nat.mod_lt _ (by omega), rfl⟩
    refine ⟨hf, by simp, ?_⟩
    rw [encodeBits_toNat hf, if_neg (show ¬ 2^52 ≤ B.toNat % 2^52 by omega)]
    omega
  · -- normal: the leading bit is implicit
    injection h with h
    subst h
    dsimp only at hm ⊢
    have hf : Fields (2^52 + B.toNat % 2^52) (((B.toNat / 2^52 % 2^11 : Nat) : Int) - 1075) :=
      .inl ⟨by omega, by omega, by omega, by omega⟩
    refine ⟨hf, ?_, ?_⟩
    · rw [Bool.eq_iff_iff]
      simp only [Bool.and_eq_true, beq_iff_eq, decide_eq_true_eq]
      omega
    · rw [encodeBits_toNat hf, if_pos (show 2^52 ≤ 2^52 + B.toNat % 2^52 by omega)]
      omega

/-- A finite pattern with a zero significand is a signed zero. -/
theorem toNat_of_ofBits_zero {B : UInt64} {b : Binary} (h : Kind.ofBits B = .finite b)
    (hm : b.m = 0) : B.toNat = if b.neg then 2^63 else 0 := by
  have hlt : B.toNat < 2^64 := B.toNat_lt
  have hsign := toNat_eq_sign_add B
  rw [Kind.ofBits_eq] at h
  split at h
  · split at h <;> cases h
  split at h
  · injection h with h
    subst h
    dsimp only at hm ⊢
    omega
  · injection h with h
    subst h
    simp at hm

/-- A finite pattern is no NaN. -/
theorem not_nan_of_ofBits {B : UInt64} {b : Binary} (h : Kind.ofBits B = .finite b) :
    B.toNat / 2^52 % 2^11 = 2047 → B.toNat % 2^52 = 0 := by
  rw [Kind.ofBits_eq] at h
  intro he
  rw [if_pos he] at h
  split at h <;> cases h

/-- A finite double is the double of its own bits. -/
theorem ofBits_toBits_of_finite {x : Float} {b : Binary} (h : Kind.ofFloat x = .finite b) :
    Float.ofBits x.toBits = x :=
  eq_of_toBits_eq (toBits_ofBits x.toBits (not_nan_of_ofBits h))

/-- Setting the sign bit of a pattern without it adds `2^63`. -/
theorem toNat_or_signBit {M : UInt64} (h : M.toNat < 2^63) :
    (M ||| 0x8000000000000000).toNat = 2^63 + M.toNat := by
  rw [UInt64.toNat_or, Nat.or_comm]
  have hs : (0x8000000000000000 : UInt64).toNat = 1 <<< 63 := rfl
  rw [hs, ← Nat.shiftLeft_add_eq_or_of_lt h, Nat.shiftLeft_eq, Nat.one_mul]

/-- The signed pattern of a magnitude without its sign bit. -/
theorem toNat_signed {M : UInt64} (neg : Bool) (h : M.toNat < 2^63) :
    (if neg then M ||| 0x8000000000000000 else M).toNat = (if neg then 2^63 else 0) + M.toNat := by
  cases neg
  · simp
  · simp only [if_true]
    exact toNat_or_signBit h

end CodingAgent.Decimal
