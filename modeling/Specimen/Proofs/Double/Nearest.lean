import Specimen.Proofs.Double.Quotient

/-!
# The nearest number

What a rational is rounded to is a rational again (`rounded`), in which the sign of zero is
forgotten. Rounding goes to a nearest number: no finite number lies closer to what is rounded
(`rounded_near`). It keeps the order and leaves finite numbers where they are, so it does not
leave a range whose ends are finite numbers (`le_rounded`, `rounded_le`).
-/

namespace Specimen.Double

variable {x y z : Double} {q q' : Rat}

/-- What a rational is rounded to. -/
def rounded (q : Rat) : Rat := (ofRat false q).toRat

theorem toRat_ofRat (zeroNegative : Bool) (q : Rat) : (ofRat zeroNegative q).toRat = rounded q :=
  le_antisymm (toRat_ofRat_mono le_rfl) (toRat_ofRat_mono le_rfl)

theorem rounded_mono (h : q ≤ q') : rounded q ≤ rounded q' := toRat_ofRat_mono h

theorem rounded_toRat (hx : x.isFinite = true) : rounded x.toRat = x.toRat := by
  rw [← toRat_ofRat x.isNegative, ofRat_toRat hx]

theorem le_rounded (hx : x.isFinite = true) (h : x.toRat ≤ q) : x.toRat ≤ rounded q :=
  (rounded_toRat hx).symm.trans_le (rounded_mono h)

theorem rounded_le (hx : x.isFinite = true) (h : q ≤ x.toRat) : rounded q ≤ x.toRat :=
  (rounded_mono h).trans_eq (rounded_toRat hx)

/-! ## Signs -/

theorem toRat_ofMagnitude_true {m : Nat} (h : m < 2 ^ 63) :
    (ofMagnitude true m).toRat = -(ofMagnitude false m).toRat := by
  have hneg : (ofMagnitude false m).neg = ofMagnitude true m := by
    unfold neg
    rw [isNegative_ofMagnitude h, magnitude_ofMagnitude h]
    rfl
  rw [← hneg, toRat_neg]

theorem rounded_of_pos (h : 0 < q) :
    rounded q = (ofMagnitude false (nearestMagnitude q)).toRat := by
  unfold rounded ofRat
  rw [if_neg h.ne', if_neg h.not_gt]

theorem rounded_zero : rounded 0 = 0 := by decide +kernel

theorem rounded_neg (q : Rat) : rounded (-q) = -rounded q := by
  have hpos {q : Rat} (h : 0 < q) : rounded (-q) = -rounded q := by
    rw [rounded_of_pos h]
    unfold rounded ofRat
    rw [if_neg (neg_ne_zero.mpr h.ne'), if_pos (neg_lt_zero.mpr h), neg_neg,
      toRat_ofMagnitude_true (nearestMagnitude_lt q)]
  rcases lt_trichotomy q 0 with hneg | rfl | h
  · have := hpos (neg_pos.mpr hneg)
    rw [neg_neg] at this
    rw [this, neg_neg]
  · rw [neg_zero, rounded_zero, neg_zero]
  · exact hpos h

/-! ## Finite results -/

theorem isFinite_of_between (hx : x.isFinite = true) (hz : z.isFinite = true)
    (hxy : x.toRat ≤ y.toRat) (hyz : y.toRat ≤ z.toRat) : y.isFinite = true := by
  have hlow : x.key ≤ y.key := not_lt.mp fun h => hxy.not_gt (key_lt_key_iff.mp h)
  have hhigh : y.key ≤ z.key := not_lt.mp fun h => hyz.not_gt (key_lt_key_iff.mp h)
  rw [isFinite_iff_key] at *
  omega

theorem isFinite_ofRat_of_between {zeroNegative : Bool} (hx : x.isFinite = true)
    (hz : z.isFinite = true) (hxq : x.toRat ≤ q) (hqz : q ≤ z.toRat) :
    (ofRat zeroNegative q).isFinite = true := by
  refine isFinite_of_between hx hz ?_ ?_
  · rw [toRat_ofRat]
    exact le_rounded hx hxq
  · rw [toRat_ofRat]
    exact rounded_le hz hqz

/-! ## Nearness -/

/-- Rounding to an integer goes to a nearest one. -/
theorem roundHalfEven_nearest (q : Rat) (n : Int) : |(roundHalfEven q : Rat) - q| ≤ |n - q| := by
  have hnear := abs_le.mp (roundHalfEven_near q)
  rcases lt_trichotomy n (roundHalfEven q) with hlt | rfl | hgt
  · have : (n : Rat) + 1 ≤ roundHalfEven q := by exact_mod_cast hlt
    rw [abs_of_nonpos (by linarith : (n : Rat) - q ≤ 0)]
    exact abs_le.mpr ⟨by linarith, by linarith⟩
  · exact le_rfl
  · have : (roundHalfEven q : Rat) + 1 ≤ n := by exact_mod_cast hgt
    rw [abs_of_nonneg (by linarith : 0 ≤ (n : Rat) - q)]
    exact abs_le.mpr ⟨by linarith, by linarith⟩

/-- A positive rational takes a whole number of steps on its grid once it is rounded. -/
theorem rounded_eq (hq : 0 < q) (hfinite : (ofRat false q).isFinite = true) :
    rounded q = (roundHalfEven (q / 2 ^ gridExponent q) : Rat) * 2 ^ gridExponent q := by
  have hmagnitude := magnitude_ofMagnitude (nearestMagnitude_lt q) false
  have hsign := isNegative_ofMagnitude (nearestMagnitude_lt q) false
  have hx : (ofMagnitude false (nearestMagnitude q)).isFinite = true := by
    unfold ofRat at hfinite
    rwa [if_neg hq.ne', if_neg hq.not_gt] at hfinite
  rw [rounded_of_pos hq, toRat_eq, hsign, if_neg Bool.false_ne_true]
  exact size_of_nearest hx hq hmagnitude

/-- On its grid a positive rational is rounded to a nearest point. -/
theorem rounded_nearest_steps (hq : 0 < q) (hfinite : (ofRat false q).isFinite = true) (n : Int) :
    |rounded q - q| ≤ |n * 2 ^ gridExponent q - q| := by
  have hstep := two_zpow_pos (gridExponent q)
  have hscale (r : Rat) :
      |r - q / 2 ^ gridExponent q| * 2 ^ gridExponent q = |r * 2 ^ gridExponent q - q| := by
    rw [← abs_of_pos hstep, ← abs_mul, sub_mul, abs_of_pos hstep, div_mul_cancel₀ _ hstep.ne']
  rw [rounded_eq hq hfinite, ← hscale, ← hscale]
  exact mul_le_mul_of_nonneg_right (roundHalfEven_nearest _ n) hstep.le

/-- A coarse grid is a part of the finer ones. -/
theorem exists_steps {e : Int} (h : e ≤ x.exponent) : ∃ n : Int, x.size = n * 2 ^ e := by
  refine ⟨x.significand * 2 ^ (x.exponent - e).toNat, ?_⟩
  have hsplit : (2 : Rat) ^ x.exponent = 2 ^ (x.exponent - e).toNat * 2 ^ e := by
    rw [← zpow_natCast, ← zpow_add₀ (by norm_num)]
    congr 1
    omega
  unfold size
  rw [hsplit]
  push_cast
  ring

theorem toRat_of_pos (h : 0 < x.toRat) : x.toRat = x.size := by
  rw [toRat_eq] at h ⊢
  split at h
  · linarith [x.size_nonneg]
  · next hsign => rw [if_neg hsign]

theorem rounded_near_of_pos (hq : 0 < q) (hfinite : (ofRat false q).isFinite = true) (z : Double) :
    |rounded q - q| ≤ |z.toRat - q| := by
  have hzero := rounded_nearest_steps hq hfinite 0
  rw [Int.cast_zero, zero_mul] at hzero
  rcases le_or_gt z.toRat 0 with hneg | hpos
  · refine hzero.trans ?_
    rw [abs_of_neg (by linarith), abs_of_neg (by linarith)]
    linarith
  have hsize := toRat_of_pos hpos
  rcases le_or_gt (gridExponent q) z.exponent with hcoarse | hfine
  · obtain ⟨n, hn⟩ := exists_steps hcoarse
    rw [hsize, hn]
    exact rounded_nearest_steps hq hfinite n
  · -- a number of a finer grid lies below the start of the grid, which is no further away
    have hstart : (2 : Rat) ^ (gridExponent q + 52) ≤ q :=
      (gridExponent_spec hq).2.2 (by have := z.exponent_ge; omega)
    have hbelow : z.size < 2 ^ (gridExponent q + 52) :=
      z.size_lt_two_zpow.trans_le (two_zpow_le (by omega))
    have hnear := rounded_nearest_steps hq hfinite (2 ^ 52)
    rw [Int.cast_pow, Int.cast_ofNat, ← two_zpow_add_52] at hnear
    refine hnear.trans ?_
    rw [hsize, abs_of_nonpos (by linarith), abs_of_nonpos (by linarith)]
    linarith

theorem isFinite_ofRat_neg {z z' : Bool} : (ofRat z (-q)).isFinite = (ofRat z' q).isFinite := by
  have hpos {q : Rat} (h : 0 < q) (z z' : Bool) :
      (ofRat z (-q)).isFinite = (ofRat z' q).isFinite := by
    unfold ofRat isFinite
    rw [if_neg (neg_ne_zero.mpr h.ne'), if_pos (neg_lt_zero.mpr h), neg_neg, if_neg h.ne',
      if_neg h.not_gt, magnitude_ofMagnitude (nearestMagnitude_lt q),
      magnitude_ofMagnitude (nearestMagnitude_lt q)]
  rcases lt_trichotomy q 0 with hneg | rfl | h
  · have := hpos (neg_pos.mpr hneg) z' z
    rw [neg_neg] at this
    exact this.symm
  · cases z <;> cases z' <;> decide +kernel
  · exact hpos h z z'

/-- No number lies closer to a rational than what it is rounded to. -/
theorem rounded_near (hfinite : (ofRat false q).isFinite = true) (z : Double) :
    |rounded q - q| ≤ |z.toRat - q| := by
  rcases lt_trichotomy q 0 with hneg | rfl | hpos
  · rw [← isFinite_ofRat_neg] at hfinite
    have hnear := rounded_near_of_pos (neg_pos.mpr hneg) hfinite z.neg
    rw [rounded_neg, toRat_neg, ← neg_sub', ← neg_sub', abs_neg, abs_neg] at hnear
    exact hnear
  · rw [rounded_zero, sub_zero, abs_zero]
    exact abs_nonneg _
  · exact rounded_near_of_pos hpos hfinite z

end Specimen.Double
