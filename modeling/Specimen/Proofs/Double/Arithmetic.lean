import Specimen.Proofs.Double.Halves

/-!
# Arithmetic of finite numbers

What the operations on finite numbers denote is the exact result, rounded (`toRat_add`,
`toRat_half`). A sum with a small number is finite again (`isFinite_add`), and so is a product
with a number from zero to one (`isFinite_mul_unit`).
-/

namespace Specimen.Double

variable {a b x y lo hi : Double} {q : Rat}

/-! ## Order -/

theorem isNaN_ofRat (zeroNegative : Bool) (q : Rat) : (ofRat zeroNegative q).isNaN = false := by
  have hmagnitude (negative : Bool) (q : Rat) :
      (ofMagnitude negative (nearestMagnitude q)).isNaN = false := by
    unfold isNaN
    rw [magnitude_ofMagnitude (nearestMagnitude_lt q), decide_eq_false_iff_not]
    exact (nearestMagnitude_le q).not_gt
  unfold ofRat
  split
  · cases zeroNegative <;> decide
  · split
    · exact hmagnitude true (-q)
    · exact hmagnitude false q

theorem not_lt_iff (hx : x.isNaN = false) (hy : y.isNaN = false) : ¬ x < y ↔ y.toRat ≤ x.toRat := by
  rw [← not_lt, ← key_lt_key_iff]
  exact not_congr ⟨fun h => h.2.2, fun h => ⟨hx, hy, h⟩⟩

theorem le_iff_toRat_le (hx : x.isFinite = true) (hy : y.isFinite = true) :
    x ≤ y ↔ x.toRat ≤ y.toRat := by
  rw [← not_lt, ← key_lt_key_iff, not_lt]
  exact ⟨fun h => h.2.2, fun h => ⟨isNaN_of_isFinite hx, isNaN_of_isFinite hy, h⟩⟩

/-- What is moved into a range whose ends are in order lies in it. -/
theorem clamp_between (hx : x.isNaN = false) (hlo : lo.isFinite = true) (hhi : hi.isFinite = true)
    (hle : lo.toRat ≤ hi.toRat) : (x.clamp lo hi).isFinite = true
      ∧ lo.toRat ≤ (x.clamp lo hi).toRat ∧ (x.clamp lo hi).toRat ≤ hi.toRat := by
  have hlo' := isNaN_of_isFinite hlo
  have hhi' := isNaN_of_isFinite hhi
  unfold clamp
  dsimp only
  by_cases hlow : x < lo
  · rw [if_pos hlow, if_neg ((not_lt_iff hhi' hlo').mpr hle)]
    exact ⟨hlo, le_rfl, hle⟩
  · rw [if_neg hlow]
    rw [not_lt_iff hx hlo'] at hlow
    by_cases hhigh : hi < x
    · rw [if_pos hhigh]
      exact ⟨hhi, hle, le_rfl⟩
    · rw [if_neg hhigh]
      rw [not_lt_iff hhi' hx] at hhigh
      exact ⟨isFinite_of_between hlo hhi hlow hhigh, hlow, hhigh⟩

/-! ## Sums -/

theorem add_of_isFinite (hx : x.isFinite = true) (hy : y.isFinite = true) :
    x + y = ofRat (x.isNegative && y.isNegative) (x.toRat + y.toRat) := by
  show add x y = _
  unfold add
  simp only [isNaN_of_isFinite hx, isNaN_of_isFinite hy, isInfinite_of_isFinite hx,
    isInfinite_of_isFinite hy, Bool.or_self, Bool.false_eq_true, if_false]

theorem toRat_add (hx : x.isFinite = true) (hy : y.isFinite = true) :
    (x + y).toRat = rounded (x.toRat + y.toRat) := by
  rw [add_of_isFinite hx hy, toRat_ofRat]

theorem toRat_sub (hx : x.isFinite = true) (hy : y.isFinite = true) :
    (x - y).toRat = rounded (x.toRat - y.toRat) := by
  show (x + y.neg).toRat = _
  rw [toRat_add hx (isFinite_neg y ▸ hy), toRat_neg, sub_eq_add_neg]

/-- The largest finite number. -/
def greatest : Double := ofMagnitude false (infiniteMagnitude - 1)

theorem toRat_le_greatest (hx : x.isFinite = true) : x.toRat ≤ greatest.toRat := by
  have hkey : greatest.key = infiniteMagnitude - 1 := by decide
  rw [isFinite_iff_key] at hx
  refine not_lt.mp fun hlt => ?_
  have := key_lt_key_iff.mpr hlt
  omega

/-- The largest number stays what it is when half a step or less is added. -/
theorem rounded_above_greatest : rounded (greatest.toRat + 2 ^ 31) = greatest.toRat := by
  decide +kernel

theorem isFinite_add (hx : x.isFinite = true) (hy : y.isFinite = true)
    (hsmall : |y.toRat| ≤ 2 ^ 31) : (x + y).isFinite = true := by
  have hgreatest : greatest.isFinite = true := by decide
  have hlow := toRat_le_greatest (x := x.neg) (isFinite_neg x ▸ hx)
  have hhigh := toRat_le_greatest hx
  rw [toRat_neg] at hlow
  obtain ⟨hge, hle⟩ := abs_le.mp hsmall
  refine isFinite_of_between (x := greatest.neg) (isFinite_neg _ ▸ hgreatest) hgreatest ?_ ?_
  · rw [toRat_add hx hy, toRat_neg, ← rounded_above_greatest, ← rounded_neg]
    exact rounded_mono (by linarith)
  · rw [toRat_add hx hy, ← rounded_above_greatest]
    exact rounded_mono (by linarith)

theorem isFinite_sub (hx : x.isFinite = true) (hy : y.isFinite = true)
    (hsmall : |y.toRat| ≤ 2 ^ 31) : (x - y).isFinite = true :=
  isFinite_add (y := y.neg) hx (isFinite_neg y ▸ hy) (by rwa [toRat_neg, abs_neg])

/-- Below `2 ^ 53` the sum with one is not rounded back: a step of the grid is no more than one. -/
theorem lt_rounded_add_one (h : |q| < 2 ^ 53) : q < rounded (q + 1) := by
  obtain ⟨hge, hlt⟩ := abs_lt.mp h
  rcases le_or_gt (2 ^ 53) (q + 1) with hlarge | hsmall
  · have hpower : ((2 ^ 53 : Int) : Rat) ≤ rounded (q + 1) :=
      intCast_le_ofRat (by decide) (by exact_mod_cast hlarge)
    push_cast at hpower
    linarith
  rcases eq_or_ne (q + 1) 0 with hzero | hne
  · rw [hzero, rounded_zero]
    linarith
  · have hfinite : (ofRat false (q + 1)).isFinite = true :=
      isFinite_ofRat (by linarith) hsmall.le
    have hgrid : gridExponent |q + 1| ≤ 0 := by
      by_contra hcoarse
      have hstart := (gridExponent_spec (abs_pos.mpr hne)).2.2 (by omega)
      have hpower : (2 : Rat) ^ (53 : Int) ≤ 2 ^ (gridExponent |q + 1| + 52) :=
        two_zpow_le (by omega)
      have habs : |q + 1| < 2 ^ (53 : Int) := abs_lt.mpr ⟨by linarith, hsmall⟩
      linarith
    have hnear := abs_le.mp (toRat_ofRat_near hne hfinite)
    have hstep : (2 : Rat) ^ gridExponent |q + 1| ≤ 1 := two_zpow_le hgrid
    have := hnear.1
    unfold rounded
    linarith

theorem rounded_sub_one_lt (h : |q| < 2 ^ 53) : rounded (q - 1) < q := by
  have hlt := lt_rounded_add_one (q := -q) (by rwa [abs_neg])
  rw [show -q + 1 = -(q - 1) by ring, rounded_neg] at hlt
  linarith

/-! ## Products -/

theorem mul_eq (hx : x.isFinite = true) (hy : y.isFinite = true) :
    x * y = ofRat (x.isNegative != y.isNegative) (x.toRat * y.toRat) := by
  show mul x y = _
  unfold mul
  simp only [isNaN_of_isFinite hx, isNaN_of_isFinite hy, isInfinite_of_isFinite hx,
    isInfinite_of_isFinite hy, Bool.or_self, Bool.false_eq_true, if_false]

theorem mul_one_eq (hx : x.isFinite = true) : x * ofInt 1 = x := by
  have hone : IsInt (ofInt 1) 1 := isInt_ofInt (by decide)
  have hsign : (ofInt 1).isNegative = false := by decide +kernel
  rw [mul_eq hx hone.isFinite, hone.toRat, hsign, Bool.bne_false, Int.cast_one, mul_one,
    ofRat_toRat hx]

/-- A product with a number from zero to one is no larger than the other factor. -/
theorem isFinite_mul_unit (hx : x.isFinite = true) (hy : y.isFinite = true) (hge : 0 ≤ y.toRat)
    (hle : y.toRat ≤ 1) : (x * y).isFinite = true := by
  have hzero : (zero false).toRat = 0 := by decide +kernel
  rw [mul_eq hx hy]
  rcases le_total 0 x.toRat with hpos | hneg
  · exact isFinite_ofRat_of_between (x := zero false) rfl hx (by rw [hzero]; positivity)
      (mul_le_of_le_one_right hpos hle)
  · exact isFinite_ofRat_of_between (z := zero false) hx rfl (by nlinarith)
      (by rw [hzero]; exact mul_nonpos_of_nonpos_of_nonneg hneg hge)

/-! ## Middles -/

theorem div_two_eq (hx : x.isFinite = true) :
    x / ofInt 2 = ofRat x.isNegative (x.toRat / 2) := by
  have htwo : IsInt (ofInt 2) 2 := isInt_ofInt (by decide)
  have hsign : (ofInt 2).isNegative = false := by decide +kernel
  have hmagnitude : (ofInt 2).magnitude ≠ 0 := by decide +kernel
  show div x (ofInt 2) = _
  unfold div
  simp only [isNaN_of_isFinite hx, isNaN_of_isFinite htwo.isFinite, isInfinite_of_isFinite hx,
    isInfinite_of_isFinite htwo.isFinite, Bool.or_self, Bool.false_eq_true, if_false, beq_iff_eq,
    hmagnitude, hsign, Bool.bne_false, htwo.toRat, Int.cast_ofNat]

theorem toRat_middle (ha : a.isFinite = true) (hb : b.isFinite = true) (hab : a.toRat < b.toRat) :
    (a / ofInt 2 + b / ofInt 2).isFinite = true
      ∧ (a / ofInt 2 + b / ofInt 2).toRat = middle a.toRat b.toRat := by
  have hhalf {x : Double} (hx : x.isFinite = true) :
      (x / ofInt 2).isFinite = true ∧ (x / ofInt 2).toRat = rounded (x.toRat / 2) := by
    rw [div_two_eq hx, toRat_ofRat]
    exact ⟨isFinite_half hx _, rfl⟩
  have hsum := toRat_add (hhalf ha).1 (hhalf hb).1
  rw [(hhalf ha).2, (hhalf hb).2] at hsum
  obtain ⟨hlow, hhigh⟩ := middle_between ha hb hab
  refine ⟨isFinite_of_between ha hb ?_ ?_, hsum⟩
  · rw [hsum]
    exact le_rounded ha hlow
  · rw [hsum]
    exact rounded_le hb hhigh

end Specimen.Double
