import Mathlib.Tactic.Linarith
import Specimen.Proofs.Double

/-!
# Numbers on their grids

A finite number is a point of a grid: its significand counts steps of the size that its
exponent gives. Counted in steps of the finest grid each point lies where its magnitude
says (`magnitude_eq`), and a coarser grid goes on where a finer one ends. So the order of
magnitudes is the order of the rationals that they stand for (`size_lt_size`), and
comparing two numbers is comparing what they denote (`lt_iff_toRat_lt`).
-/

namespace Specimen.Double

variable {x y : Double}

/-! ## Significands and exponents -/

theorem significand_lt (x : Double) : x.significand < 2 ^ 53 := by
  unfold significand
  split <;> omega

theorem exponent_ge (x : Double) : -1074 ≤ x.exponent := by
  unfold exponent
  omega

/-- Only on the finest grid are there numbers without a leading one. -/
theorem significand_ge (h : x.exponent ≠ -1074) : 2 ^ 52 ≤ x.significand := by
  unfold exponent at h
  unfold significand
  split <;> omega

/-- A magnitude counts the steps of all finer grids before those of its own. -/
theorem magnitude_eq (x : Double) :
    (x.magnitude : Int) = (x.exponent + 1074) * 2 ^ 52 + x.significand := by
  unfold exponent significand
  split <;> omega

theorem exponent_le (h : x.isFinite = true) : x.exponent ≤ 971 := by
  have hfinite : x.magnitude < 0x7FF0_0000_0000_0000 := of_decide_eq_true h
  unfold exponent
  omega

/-! ## Sizes -/

/-- What a finite number denotes but for its sign. -/
def size (x : Double) : Rat := x.significand * (2 : Rat) ^ x.exponent

theorem toRat_eq (x : Double) : x.toRat = if x.isNegative then -x.size else x.size := rfl

theorem two_zpow_pos (e : Int) : (0 : Rat) < 2 ^ e := zpow_pos (by norm_num) e

theorem two_zpow_le {e e' : Int} (h : e ≤ e') : (2 : Rat) ^ e ≤ 2 ^ e' :=
  zpow_le_zpow_right₀ (by norm_num) h

theorem size_nonneg (x : Double) : 0 ≤ x.size :=
  mul_nonneg (Nat.cast_nonneg _) (two_zpow_pos _).le

theorem size_eq_zero_iff : x.size = 0 ↔ x.magnitude = 0 := by
  have hexponent := x.exponent_ge
  have hmagnitude := x.magnitude_eq
  unfold size
  rw [mul_eq_zero, or_iff_left (two_zpow_pos _).ne', Nat.cast_eq_zero]
  constructor
  · intro hzero
    have hfinest : x.exponent = -1074 := by
      by_contra h
      have := significand_ge h
      omega
    omega
  · intro hzero
    omega

/-- The steps of a grid end where the next grid starts. -/
theorem size_lt_two_zpow (x : Double) : x.size < 2 ^ (x.exponent + 53) := by
  have hsignificand : (x.significand : Rat) < 2 ^ (53 : Int) := by
    exact_mod_cast x.significand_lt
  calc x.size < 2 ^ (53 : Int) * 2 ^ x.exponent :=
        mul_lt_mul_of_pos_right hsignificand (two_zpow_pos _)
    _ = 2 ^ (x.exponent + 53) := by rw [← zpow_add₀ (by norm_num), add_comm]

theorem two_zpow_le_size (h : x.exponent ≠ -1074) : 2 ^ (x.exponent + 52) ≤ x.size := by
  have hsignificand : (2 : Rat) ^ (52 : Int) ≤ x.significand := by
    exact_mod_cast significand_ge h
  calc (2 : Rat) ^ (x.exponent + 52) = 2 ^ (52 : Int) * 2 ^ x.exponent := by
        rw [← zpow_add₀ (by norm_num), add_comm]
    _ ≤ x.size := mul_le_mul_of_nonneg_right hsignificand (two_zpow_pos _).le

theorem size_lt_size (h : x.magnitude < y.magnitude) : x.size < y.size := by
  have hx := x.magnitude_eq
  have hy := y.magnitude_eq
  have hxlt := x.significand_lt
  have hxge := x.exponent_ge
  rcases lt_trichotomy x.exponent y.exponent with hlt | heq | hgt
  · calc x.size < 2 ^ (x.exponent + 53) := x.size_lt_two_zpow
      _ ≤ 2 ^ (y.exponent + 52) := two_zpow_le (by omega)
      _ ≤ y.size := two_zpow_le_size (by omega)
  · have hsignificand : (x.significand : Rat) < y.significand := by
      have : x.significand < y.significand := by omega
      exact_mod_cast this
    unfold size
    rw [heq]
    exact mul_lt_mul_of_pos_right hsignificand (two_zpow_pos _)
  · -- the significand of `x` would have to make up for a step of `y` with a leading one
    have := significand_ge (x := x) (by have := y.exponent_ge; omega)
    have := y.significand_lt
    omega

theorem size_lt_size_iff : x.size < y.size ↔ x.magnitude < y.magnitude := by
  refine ⟨fun h => ?_, size_lt_size⟩
  rcases Nat.lt_trichotomy x.magnitude y.magnitude with hlt | heq | hgt
  · exact hlt
  · have hsize : x.size = y.size := by
      unfold size significand exponent
      rw [heq]
    exact absurd hsize h.ne
  · exact absurd (size_lt_size hgt) h.not_gt

/-! ## Order -/

/-- The order of signed magnitudes is that of the rationals. -/
theorem key_lt_key_iff : x.key < y.key ↔ x.toRat < y.toRat := by
  have hx := x.size_nonneg
  have hy := y.size_nonneg
  have hx₀ := size_eq_zero_iff (x := x)
  have hy₀ := size_eq_zero_iff (x := y)
  rw [toRat_eq, toRat_eq]
  unfold key
  cases x.isNegative <;> cases y.isNegative <;>
    simp only [if_true, if_false, Bool.false_eq_true]
  · rw [size_lt_size_iff]
    omega
  · exact ⟨fun h => by omega, fun h => by linarith⟩
  · constructor
    · intro h
      by_contra hle
      have := hx₀.mp (by linarith)
      have := hy₀.mp (by linarith)
      omega
    · intro h
      by_contra hle
      have := hx₀.mpr (by omega)
      have := hy₀.mpr (by omega)
      linarith
  · rw [neg_lt_neg_iff (a := x.size), size_lt_size_iff]
    omega

theorem key_eq_key_iff : x.key = y.key ↔ x.toRat = y.toRat := by
  have hlt := key_lt_key_iff (x := x) (y := y)
  have hgt := key_lt_key_iff (x := y) (y := x)
  constructor
  · intro h
    exact le_antisymm (not_lt.mp fun hlt' => by have := hgt.mpr hlt'; omega)
      (not_lt.mp fun hlt' => by have := hlt.mpr hlt'; omega)
  · intro h
    by_contra hne
    rcases lt_or_gt_of_ne hne with hlt' | hgt'
    · exact (hlt.mp hlt').ne h
    · exact (hgt.mp hgt').ne' h

theorem lt_iff_toRat_lt (hx : x.isFinite = true) (hy : y.isFinite = true) :
    x < y ↔ x.toRat < y.toRat := by
  rw [← key_lt_key_iff]
  exact ⟨fun h => h.2.2, fun h => ⟨isNaN_of_isFinite hx, isNaN_of_isFinite hy, h⟩⟩

theorem same_iff_toRat_eq (hx : x.isFinite = true) (hy : y.isFinite = true) :
    x.same y = true ↔ x.toRat = y.toRat := by
  rw [← key_eq_key_iff]
  unfold same
  rw [isNaN_of_isFinite hx, isNaN_of_isFinite hy]
  simp

/-! ## Integral parts -/

/-- The integral parts of a number that is no larger than `2 ^ 53` are exact. -/
theorem isInt_floor (hx : x.isFinite = true) (h : |x.toRat| ≤ 2 ^ 53) :
    IsInt x.floor x.toRat.floor ∧ x.toRat.floor.natAbs ≤ 2 ^ 53 := by
  obtain ⟨hge, hle⟩ := abs_le.mp h
  have hlower : (-2 ^ 53 : Int) ≤ x.toRat.floor := Rat.le_floor_iff.mpr (by exact_mod_cast hge)
  have hupper : x.toRat.floor < (2 ^ 53 + 1 : Int) :=
    Rat.floor_lt_iff.mpr (hle.trans_lt (by norm_num))
  have hsmall : x.toRat.floor.natAbs ≤ 2 ^ 53 := by omega
  refine ⟨?_, hsmall⟩
  unfold floor
  rw [if_pos hx]
  exact isInt_ofRat_intCast _ hsmall

theorem isInt_ceil (hx : x.isFinite = true) (h : |x.toRat| ≤ 2 ^ 53) :
    IsInt x.ceil x.toRat.ceil ∧ x.toRat.ceil.natAbs ≤ 2 ^ 53 := by
  obtain ⟨hge, hle⟩ := abs_le.mp h
  have hlower : (-2 ^ 53 - 1 : Int) < x.toRat.ceil :=
    Rat.lt_ceil_iff.mpr (lt_of_lt_of_le (by norm_num) hge)
  have hupper : x.toRat.ceil ≤ (2 ^ 53 : Int) := Rat.ceil_le_iff.mpr (by exact_mod_cast hle)
  have hsmall : x.toRat.ceil.natAbs ≤ 2 ^ 53 := by omega
  refine ⟨?_, hsmall⟩
  unfold ceil
  rw [if_pos hx]
  exact isInt_ofRat_intCast _ hsmall

theorem IsInt.abs {n : Int} (h : IsInt x n) : IsInt x.abs |n| := by
  have hmagnitude : x.abs.magnitude = x.magnitude :=
    magnitude_ofMagnitude (Nat.mod_lt _ (by decide)) _
  have hsign : x.abs.isNegative = false :=
    isNegative_ofMagnitude (Nat.mod_lt _ (by decide)) _
  constructor
  · unfold Double.isFinite
    rw [hmagnitude]
    exact h.isFinite
  · have hsize : x.abs.size = x.size := by
      unfold size significand exponent
      rw [hmagnitude]
    have hvalue : |x.toRat| = x.size := by
      rw [toRat_eq]
      split
      · rw [abs_neg, abs_of_nonneg x.size_nonneg]
      · exact abs_of_nonneg x.size_nonneg
    rw [toRat_eq, hsign, if_neg Bool.false_ne_true, hsize, ← hvalue, h.toRat, Int.cast_abs]

end Specimen.Double
