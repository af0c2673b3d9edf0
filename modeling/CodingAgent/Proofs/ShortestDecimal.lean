import CodingAgent.Proofs.NearestDouble
import CodingAgent.Decimal.Shortest

/-!
# The shortest decimal rounds to its double

`Binary.shortest` searches decimal grids for a decimal that `Binary.admits`, and falls back on
the exact value of the double. Whatever it returns rounds to the double, which is what makes
the text of a double read back as that double:

* `cmpScaled_eq`: the comparison the search makes in naturals is the comparison of the two
  rationals;
* `admits_iff`: for the fields the bits of a double decode to, a decimal is admitted exactly
  when it rounds to the double (`RoundsTo`);
* `value_normalize`: moving trailing zeros into the exponent keeps the value;
* `roundsTo_shortest`: the shortest decimal of every finite nonzero double rounds to it.

The search need not succeed for this: an answer it finds was admitted, and the fallback is
exact. That the answer has the fewest digits is not proved here.
-/

namespace CodingAgent.Decimal

/-- The value of a decimal. -/
def Dec.value (d : Dec) : ℚ := d.digits * 10 ^ d.exp

/-- Two comparisons agree when their strict orders and their equalities do. -/
theorem compare_eq_of_iff {α β : Type} [LinearOrder α] [LinearOrder β] {a b : α} {x y : β}
    (hlt : a < b ↔ x < y) (heq : a = b ↔ x = y) : compare a b = compare x y := by
  rcases lt_trichotomy a b with h | h | h
  · rw [compare_lt_iff_lt.2 h, compare_lt_iff_lt.2 (hlt.1 h)]
  · rw [compare_eq_iff_eq.2 h, compare_eq_iff_eq.2 (heq.1 h)]
  · have hyx : y < x := by
      rcases lt_trichotomy x y with h' | h' | h'
      · exact absurd (hlt.2 h') (lt_asymm h)
      · exact absurd (heq.2 h') (ne_of_gt h)
      · exact h'
    rw [compare_gt_iff_gt.2 h, compare_gt_iff_gt.2 hyx]

theorem zpow_mul_pow_toNat_neg {b : ℚ} (hb : b ≠ 0) (i : Int) :
    b ^ i * b ^ (-i).toNat = b ^ i.toNat := by
  rw [← zpow_natCast, ← zpow_add₀ hb, ← zpow_natCast]
  congr 1
  omega

/-- `cmpScaled` compares `a * 10^i` with `n * 2^j` exactly: both sides are scaled by the
same positive power product, which moves every negative exponent across. -/
theorem cmpScaled_eq (a : Nat) (i : Int) (n : Nat) (j : Int) :
    cmpScaled a i n j = compare ((a : ℚ) * 10 ^ i) ((n : ℚ) * 2 ^ j) := by
  have hK : (0 : ℚ) < 10 ^ (-i).toNat * 2 ^ (-j).toNat := by positivity
  have hA : ((a * Nat.pow 10 i.toNat * Nat.pow 2 (-j).toNat : Nat) : ℚ) =
      (a * 10 ^ i) * (10 ^ (-i).toNat * 2 ^ (-j).toNat) := by
    simp only [Nat.pow_eq]
    push_cast
    rw [← zpow_mul_pow_toNat_neg (by norm_num : (10 : ℚ) ≠ 0) i]
    ring
  have hB : ((n * Nat.pow 2 j.toNat * Nat.pow 10 (-i).toNat : Nat) : ℚ) =
      (n * 2 ^ j) * (10 ^ (-i).toNat * 2 ^ (-j).toNat) := by
    simp only [Nat.pow_eq]
    push_cast
    rw [← zpow_mul_pow_toNat_neg (by norm_num : (2 : ℚ) ≠ 0) j]
    ring
  unfold cmpScaled
  apply compare_eq_of_iff
  · rw [← @Nat.cast_lt ℚ, hA, hB]
    exact mul_lt_mul_iff_of_pos_right hK
  · rw [← @Nat.cast_inj ℚ, hA, hB]
    exact mul_left_inj' hK.ne'

/-- **Admission is rounding.** For the fields of a double's bits, the bounds `admits` puts on a
decimal, in quarters of the grid, are the ends of the interval that rounds to the double. -/
theorem admits_iff {b : Binary} (hm : 0 < b.m)
    (hn : b.narrowBelow = decide (b.m = 2 ^ 52 ∧ -1074 < b.q)) (d : Dec) :
    b.admits d = true ↔ RoundsTo b.m b.q d.value := by
  have h4 : (2 : ℚ) ^ (b.q - 2) = 2 ^ b.q / 4 := by
    rw [zpow_sub₀ (by norm_num)]
    norm_num
  have hlo : ((if b.narrowBelow then 4 * b.m - 1 else 4 * b.m - 2 : Nat) : ℚ) * 2 ^ (b.q - 2) =
      (b.m - (if b.m = 2 ^ 52 ∧ -1074 < b.q then 1 / 4 else 1 / 2)) * 2 ^ b.q := by
    rw [hn, h4]
    by_cases h : b.m = 2 ^ 52 ∧ -1074 < b.q
    · rw [if_pos (decide_eq_true h), if_pos h, Nat.cast_sub (by omega)]
      push_cast
      ring
    · rw [if_neg (by simpa using h), if_neg h, Nat.cast_sub (by omega)]
      push_cast
      ring
  have hhi : ((4 * b.m + 2 : Nat) : ℚ) * 2 ^ (b.q - 2) = (b.m + 1 / 2) * 2 ^ b.q := by
    rw [h4]
    push_cast
    ring
  unfold Binary.admits RoundsTo Dec.value
  dsimp only
  rw [cmpScaled_eq, cmpScaled_eq, hlo, hhi]
  simp only [Bool.and_eq_true, Bool.or_eq_true, beq_iff_eq, compare_gt_iff_gt, compare_lt_iff_lt,
    compare_eq_iff_eq]
  constructor
  · rintro ⟨h1, h2⟩
    exact ⟨h1.imp id (fun h => ⟨h.1, h.2.symm⟩), h2⟩
  · rintro ⟨h1, h2⟩
    exact ⟨h1.imp id (fun h => ⟨h.1, h.2.symm⟩), h2⟩

/-! ## What the search returns -/

theorem hitOnGrid_admits {b : Binary} {g : Int} {d : Dec} (h : b.hitOnGrid g = some d) :
    b.admits d = true := by
  unfold Binary.hitOnGrid at h
  dsimp only at h
  split at h
  · rename_i hlow hhigh
    simp only [Bool.and_eq_true] at hlow
    split at h <;> cases h
    · exact hlow.1
    · exact hhigh
  · rename_i hlow _
    simp only [Bool.and_eq_true] at hlow
    cases h
    exact hlow.1
  · rename_i hhigh
    cases h
    exact hhigh
  · cases h

/-- Every grid the search walks either hits or passes the search on to the next. -/
theorem searchFrom_admits {b : Binary} {d : Dec} :
    ∀ (fuel : Nat) (g : Int), b.searchFrom fuel g = some d → b.admits d = true
  | 0, _, h => by cases h
  | fuel + 1, g, h => by
    unfold Binary.searchFrom at h
    split at h
    · rename_i d' hd
      cases h
      exact hitOnGrid_admits hd
    · exact searchFrom_admits fuel (g - 1) h

/-- Moving one trailing zero into the exponent at a time keeps the value. -/
theorem value_normalize_go : ∀ (fuel : Nat) (d : Dec), (Dec.normalize.go fuel d).value = d.value
  | 0, _ => rfl
  | fuel + 1, d => by
    rw [Dec.normalize.go]
    split
    · rename_i h
      rw [value_normalize_go fuel]
      simp only [Bool.and_eq_true, bne_iff_ne, ne_eq, beq_iff_eq] at h
      obtain ⟨k, hk⟩ : ∃ k, d.digits = 10 * k := ⟨d.digits / 10, by omega⟩
      unfold Dec.value
      rw [hk, Nat.mul_div_cancel_left _ (by norm_num), zpow_add_one₀ (by norm_num)]
      push_cast
      ring
    · rfl

theorem value_normalize (d : Dec) : d.normalize.value = d.value :=
  value_normalize_go _ d

/-- **The shortest decimal rounds to its double**, for the fields of every finite nonzero
double: a hit of the search was admitted, and the fallback is the double's exact value. -/
theorem roundsTo_shortest {b : Binary} (hm : 0 < b.m)
    (hn : b.narrowBelow = decide (b.m = 2 ^ 52 ∧ -1074 < b.q)) :
    RoundsTo b.m b.q b.shortest.value := by
  unfold Binary.shortest
  split
  · rename_i d hd
    rw [value_normalize]
    exact (admits_iff hm hn d).1 (searchFrom_admits _ _ hd)
  · -- the exact value, written over a power of ten when the exponent is negative
    split
    · rename_i hq
      have hv : (Dec.value ⟨b.m * Nat.pow 2 b.q.toNat, 0⟩) = (b.m : ℚ) * 2 ^ b.q := by
        unfold Dec.value
        simp only [Nat.pow_eq]
        push_cast
        rw [mul_one, ← zpow_natCast, Int.toNat_of_nonneg hq]
      rw [hv]
      exact roundsTo_exact _ _
    · rename_i hq
      have hv : (Dec.value ⟨b.m * Nat.pow 5 (-b.q).toNat, b.q⟩) = (b.m : ℚ) * 2 ^ b.q := by
        unfold Dec.value
        simp only [Nat.pow_eq]
        push_cast
        have h10 : (10 : ℚ) ^ b.q = 2 ^ b.q * 5 ^ b.q := by
          rw [← mul_zpow]
          norm_num
        rw [h10, ← zpow_natCast, show (((-b.q).toNat : Nat) : Int) = -b.q by omega, zpow_neg]
        field_simp
      rw [hv]
      exact roundsTo_exact _ _

end CodingAgent.Decimal
