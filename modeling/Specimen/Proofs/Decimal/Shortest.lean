import Specimen.Proofs.Decimal.Digits
import Specimen.Proofs.Double.Rounding

/-!
# The shortest decimal is read back

The decimal that is written for a number lies in its rounding interval, whichever count of
digits gave it (`shortest_spec`). For the first counts that is what is looked for. With
seventeen digits nothing is looked for any more: a step of the last digit is then less than
the interval is wide (`roundsTo_of_near`), so the nearest decimal is inside.

A decimal in the rounding interval is read as the number (`nearest_of_roundsTo`). The
position of its point is then far from where decimals are no longer formed.
-/

namespace Specimen.Decimal

open Double (RoundsTo two_zpow_pos two_zpow_le)

variable {x : Double} {q : Rat}

/-! ## Rounding intervals -/

theorem significand_pos (hx : x.magnitude ≠ 0) : 0 < x.significand := by
  have hmagnitude := x.magnitude_eq
  by_contra hzero
  by_cases hfinest : x.exponent = -1074
  · rw [hfinest] at hmagnitude
    omega
  · have := Double.significand_ge hfinest
    omega

theorem size_pos (hx : x.magnitude ≠ 0) : 0 < x.size :=
  lt_of_le_of_ne x.size_nonneg fun h => hx (Double.size_eq_zero_iff.mp h.symm)

/-- What a decimal is looked for in is the rounding interval. -/
theorem roundsTo_of_contains (h : (Interval.ofDouble x).contains q = true) : RoundsTo x q := by
  have hunit := two_zpow_pos x.exponent
  have hdiv {r : Rat} : r * 2 ^ x.exponent ≤ q ↔ r ≤ q / 2 ^ x.exponent := (le_div_iff₀ hunit).symm
  have hdiv' {r : Rat} : q ≤ r * 2 ^ x.exponent ↔ q / 2 ^ x.exponent ≤ r := (div_le_iff₀ hunit).symm
  have hdivlt {r : Rat} : r * 2 ^ x.exponent < q ↔ r < q / 2 ^ x.exponent := (lt_div_iff₀ hunit).symm
  have hdivlt' {r : Rat} : q < r * 2 ^ x.exponent ↔ q / 2 ^ x.exponent < r := (div_lt_iff₀ hunit).symm
  unfold Interval.contains Interval.ofDouble at h
  dsimp only at h
  generalize hlowest : (x.significand == 0x10_0000_0000_0000 && decide (-1074 < x.exponent)) = lowest
    at h
  have hsmall : (if lowest = true then (1 : Rat) / 4 else 1 / 2) ≤ 1 / 2 := by
    split <;> norm_num
  have hquarter (hfirst : x.significand = 2 ^ 52) (hcoarse : -1074 < x.exponent) :
      (if lowest = true then (1 : Rat) / 4 else 1 / 2) = 1 / 4 := by
    rw [← hlowest, if_pos (by simp [hfirst, hcoarse])]
  split at h
  · next hclosed =>
      rw [Bool.and_eq_true, decide_eq_true_eq, decide_eq_true_eq, hdiv, hdiv'] at h
      refine ⟨by linarith, h.2, .inl (by simpa using hclosed), fun hfirst hcoarse => ?_⟩
      rw [← hquarter hfirst hcoarse]
      exact h.1
  · rw [Bool.and_eq_true, decide_eq_true_eq, decide_eq_true_eq, hdivlt, hdivlt'] at h
    refine ⟨by linarith, h.2.le, .inr ⟨by linarith, h.2⟩, fun hfirst hcoarse => ?_⟩
    rw [← hquarter hfirst hcoarse]
    exact h.1.le

theorem pos_of_roundsTo (hx : x.magnitude ≠ 0) (h : RoundsTo x q) : 0 < q := by
  have hsignificand : (1 : Rat) ≤ x.significand := by exact_mod_cast significand_pos hx
  have hsteps : 0 < q / 2 ^ x.exponent := by linarith [h.low]
  exact (div_pos_iff_of_pos_right (two_zpow_pos _)).mp hsteps

/-- Near enough to a number a rational lies in its rounding interval. -/
theorem roundsTo_of_near {u : Rat} (hu : u * 10 ^ 16 ≤ x.size) (h : |q - x.size| ≤ u / 2) :
    RoundsTo x q := by
  have hunit := two_zpow_pos x.exponent
  have hsignificand : (x.significand : Rat) < 9007199254740992 := by
    exact_mod_cast x.significand_lt
  have hsteps : x.size / 2 ^ x.exponent = x.significand := mul_div_cancel_right₀ _ hunit.ne'
  have hwidth : u / 2 ^ x.exponent * 10 ^ 16 ≤ x.significand := by
    rw [← hsteps, div_mul_eq_mul_div]
    exact div_le_div_of_nonneg_right hu hunit.le
  have hnear : |q / 2 ^ x.exponent - x.significand| ≤ u / 2 ^ x.exponent / 2 := by
    rw [← hsteps, ← sub_div, abs_div, abs_of_pos hunit, div_right_comm]
    exact div_le_div_of_nonneg_right h hunit.le
  obtain ⟨hlow, hhigh⟩ := abs_le.mp hnear
  norm_num at hwidth
  refine ⟨by linarith, by linarith, .inr ⟨by linarith, by linarith⟩, fun hfirst _ => ?_⟩
  rw [hfirst] at hwidth hlow ⊢
  norm_num at hwidth hlow ⊢
  linarith

/-! ## The shortest decimal -/

/-- The rational that a decimal denotes. -/
def Digits.toRat (d : Digits) : Rat := d.coefficient * 10 ^ d.exponent

theorem nearer_cases (tie : Tie) (scaled : Rat) (below : Nat) :
    nearer tie scaled below = below ∨ nearer tie scaled below = below + 1 := by
  unfold nearer
  dsimp only
  split
  · exact .inl rfl
  · split
    · exact .inr rfl
    · cases tie with
      | even => dsimp only; split <;> simp
      | up => exact .inr rfl

/-- The nearer neighbour is at most half a step away. -/
theorem nearer_near (tie : Tie) {scaled : Rat} (h : 0 ≤ scaled) :
    |(nearer tie scaled scaled.floor.toNat : Rat) - scaled| ≤ 1 / 2 := by
  have hcast : ((scaled.floor.toNat : Nat) : Rat) = scaled.floor := by
    exact_mod_cast Int.toNat_of_nonneg (Rat.le_floor_iff.mpr (by exact_mod_cast h))
  have hge := Rat.floor_le scaled
  have hlt := Rat.lt_floor_add_one scaled
  push_cast at hlt
  rw [← hcast] at hge hlt
  generalize scaled.floor.toNat = below at hge hlt ⊢
  rw [abs_le]
  unfold nearer
  dsimp only
  split
  · constructor <;> linarith
  · split
    · push_cast
      constructor <;> linarith
    · cases tie with
      | even =>
          dsimp only
          split
          · constructor <;> linarith
          · push_cast
            constructor <;> linarith
      | up =>
          push_cast
          constructor <;> linarith

/-- A decimal that is found with a count of digits lies in the interval. -/
theorem contains_of_atCount {tie : Tie} {i : Interval} {point : Int} {count : Nat} {d : Digits}
    (h : atCount tie i point count = some d) : i.contains d.toRat = true := by
  unfold atCount at h
  dsimp only at h
  split at h
  · next hbelow habove =>
      cases h
      unfold Digits.toRat
      dsimp only
      rcases nearer_cases tie (i.value / 10 ^ (point - count))
        (i.value / 10 ^ (point - count)).floor.toNat with heq | heq
      · rw [heq]
        exact hbelow
      · rw [heq]
        exact habove
  · next hbelow _ =>
      cases h
      exact hbelow
  · next _ habove =>
      cases h
      exact habove
  · cases h

/-- A zero at the end of the digits does not count. -/
theorem toRat_trimmed (d : Digits) : d.trimmed.toRat = d.toRat := by
  fun_induction Digits.trimmed d with
  | case1 d _ => rfl
  | case2 d _ hzero ih =>
      rw [ih]
      obtain ⟨c, hc⟩ : ∃ c, d.coefficient = c * 10 := ⟨d.coefficient / 10, by omega⟩
      unfold Digits.toRat
      dsimp only
      rw [hc, Nat.mul_div_cancel _ (by decide), zpow_add₀ (by norm_num)]
      push_cast
      ring
  | case3 d _ _ => rfl

/-- Seventeen digits are always enough: the last one is worth less than the interval is wide. -/
theorem roundsTo_nearer (tie : Tie) (hx : x.magnitude ≠ 0) {u : Rat}
    (hu : (10 : Rat) ^ (pointPosition x.size - 17) = u) :
    RoundsTo x (nearer tie (x.size / u) (x.size / u).floor.toNat * u) := by
  have hpos := size_pos hx
  have hunit : 0 < u := hu ▸ ten_zpow_pos (pointPosition x.size - 17)
  have hnear := nearer_near tie (div_pos hpos hunit).le
  refine roundsTo_of_near (u := u) ?_ ?_
  · refine le_trans (le_of_eq ?_) (pointPosition_spec hpos).1
    rw [← hu, ← zpow_natCast, ← zpow_add₀ (by norm_num)]
    congr 1
    push_cast
    ring
  · generalize (nearer tie (x.size / u) (x.size / u).floor.toNat : Rat) = c at hnear ⊢
    calc |c * u - x.size| = |c - x.size / u| * u := by
          rw [← abs_of_pos hunit, ← abs_mul, sub_mul, abs_of_pos hunit,
            div_mul_cancel₀ _ hunit.ne']
      _ ≤ 1 / 2 * u := mul_le_mul_of_nonneg_right hnear hunit.le
      _ = u / 2 := by ring

/-- The shortest decimal is one that is read back. -/
theorem shortest_spec (tie : Tie) (hx : x.magnitude ≠ 0) :
    RoundsTo x (shortest tie x).toRat ∧ 0 < (shortest tie x).coefficient := by
  have hrounds : RoundsTo x (shortest tie x).toRat := by
    unfold shortest
    dsimp only
    rw [toRat_trimmed]
    cases hfound : (List.range' 1 16).findSome? (atCount tie (Interval.ofDouble x)
        (pointPosition (Interval.ofDouble x).value)) with
    | some d =>
        obtain ⟨count, -, hcount⟩ := List.exists_of_findSome?_eq_some hfound
        exact roundsTo_of_contains (contains_of_atCount hcount)
    | none => exact roundsTo_nearer tie hx rfl
  refine ⟨hrounds, ?_⟩
  by_contra hzero
  have hcoefficient : (shortest tie x).coefficient = 0 := by omega
  have hnone : (shortest tie x).toRat = 0 := by
    unfold Digits.toRat
    rw [hcoefficient, Nat.cast_zero, zero_mul]
  exact (pos_of_roundsTo hx hrounds).ne' hnone

/-! ## Reading -/

theorem two_pow_le_ten_pow : (2 : Rat) ^ 1023 ≤ 10 ^ 308 :=
  calc (2 : Rat) ^ 1023 = (2 ^ 93) ^ 11 := pow_mul 2 93 11
    _ ≤ (10 ^ 28) ^ 11 := pow_le_pow_left₀ (by norm_num) (by norm_num) 11
    _ = 10 ^ 308 := (pow_mul 10 28 11).symm

theorem two_pow_1024_le : (2 : Rat) ^ (1024 : Int) ≤ 10 ^ (309 : Int) := by
  have hpow : (2 : Rat) ^ 1024 ≤ 10 ^ 309 :=
    calc (2 : Rat) ^ 1024 = 2 ^ 1023 * 2 := pow_succ 2 1023
      _ ≤ 10 ^ 308 * 10 := mul_le_mul two_pow_le_ten_pow (by norm_num) (by norm_num)
          (pow_nonneg (by norm_num) _)
      _ = 10 ^ 309 := (pow_succ 10 308).symm
  exact_mod_cast hpow

theorem ten_pow_neg_330_le : (10 : Rat) ^ (-330 : Int) ≤ 2 ^ (-1075 : Int) := by
  have hpow : (2 : Rat) ^ 1075 ≤ 10 ^ 330 :=
    calc (2 : Rat) ^ 1075 = 2 ^ 1023 * 2 ^ 52 := pow_add 2 1023 52
      _ ≤ 10 ^ 308 * 10 ^ 22 := mul_le_mul two_pow_le_ten_pow (by norm_num) (by norm_num)
          (pow_nonneg (by norm_num) _)
      _ = 10 ^ 330 := (pow_add 10 308 22).symm
  rw [zpow_neg, zpow_neg]
  exact inv_anti₀ (two_zpow_pos _) (by exact_mod_cast hpow)

/-- What lies in the rounding interval of a finite number is not too large to be one. -/
theorem lt_of_roundsTo {q : Rat} (hx : x.isFinite = true) (h : RoundsTo x q) :
    q < 2 ^ (1024 : Int) := by
  have hunit := two_zpow_pos x.exponent
  have hsignificand : (x.significand : Rat) + 1 ≤ 2 ^ 53 := by exact_mod_cast x.significand_lt
  have hle := h.high
  rw [div_le_iff₀ hunit] at hle
  calc q ≤ (x.significand + 1 / 2) * 2 ^ x.exponent := hle
    _ < 2 ^ (53 : Int) * 2 ^ x.exponent :=
        mul_lt_mul_of_pos_right (by norm_num at hsignificand ⊢; linarith) hunit
    _ = 2 ^ (53 + x.exponent) := (zpow_add₀ (by norm_num) _ _).symm
    _ ≤ 2 ^ (1024 : Int) := two_zpow_le (by have := Double.exponent_le hx; omega)

/-- What lies in the rounding interval of a number that is not zero is at least half of the
least number. -/
theorem le_of_roundsTo {q : Rat} (hzero : x.magnitude ≠ 0) (h : RoundsTo x q) :
    2 ^ (-1075 : Int) ≤ q := by
  have hunit := two_zpow_pos x.exponent
  have hpos : (1 : Rat) ≤ x.significand := by exact_mod_cast significand_pos hzero
  have hle := h.low
  rw [le_div_iff₀ hunit] at hle
  calc (2 : Rat) ^ (-1075 : Int) ≤ 2 ^ (-1 + x.exponent) :=
        two_zpow_le (by have := x.exponent_ge; omega)
    _ = 2 ^ (-1 : Int) * 2 ^ x.exponent := zpow_add₀ (by norm_num) _ _
    _ ≤ (x.significand - 1 / 2) * 2 ^ x.exponent :=
        mul_le_mul_of_nonneg_right (by norm_num; linarith) hunit.le
    _ ≤ q := hle

/-- Decimals in rounding intervals are neither too large nor too small to be formed. -/
theorem point_bounds {c : Nat} {e : Int} (hx : x.isFinite = true) (hzero : x.magnitude ≠ 0)
    (hc : 0 < c) (h : RoundsTo x (c * 10 ^ e)) :
    (digitCount c : Int) + e ≤ 310 ∧ -330 ≤ (digitCount c : Int) + e := by
  obtain ⟨hlow, hhigh⟩ := decimal_bounds hc e
  constructor
  · by_contra hlarge
    have hge : (10 : Rat) ^ (309 : Int) ≤ c * 10 ^ e := (ten_zpow_le (by omega)).trans hlow
    exact absurd (hge.trans_lt (lt_of_roundsTo hx h)) (not_lt.mpr two_pow_1024_le)
  · by_contra hsmall
    have hlt : (c : Rat) * 10 ^ e < 10 ^ (-330 : Int) := hhigh.trans_le (ten_zpow_le (by omega))
    exact absurd ((le_of_roundsTo hzero h).trans_lt hlt) (not_lt.mpr ten_pow_neg_330_le)

/-- A decimal in the rounding interval of a number is read as the number. -/
theorem nearest_of_roundsTo {c : Nat} {e : Int} (hx : x.isFinite = true) (hzero : x.magnitude ≠ 0)
    (hc : 0 < c) (h : RoundsTo x (c * 10 ^ e)) : nearest x.isNegative c e = x := by
  obtain ⟨hlarge, hsmall⟩ := point_bounds hx hzero hc h
  unfold nearest
  dsimp only
  rw [if_neg hc.ne', if_neg (by omega), if_neg (by omega)]
  exact Double.ofRat_of_roundsTo hx (pos_of_roundsTo hzero h) h

end Specimen.Decimal
