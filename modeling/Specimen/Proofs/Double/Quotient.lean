import Specimen.Proofs.Double.Rounding

/-!
# Quotients of integers

A quotient of two integers that is not an integer keeps away from the integers by the
reciprocal of its divisor at least, and rounding moves it by less than that as long as the
dividend has no more than 53 digits (`eq_of_ofRat_div_eq`). So rounding takes a quotient
neither past an integer nor onto one, and the integers next to the rounded quotient are the
integers next to the exact one (`IsInt.floor_div`, `IsInt.ceil_div`).
-/

namespace Specimen.Double

variable {q q' : Rat} {n m k : Int} {zeroNegative : Bool}

/-! ## Rounding between integers -/

theorem toRat_ofRat_mono {z z' : Bool} (h : q ≤ q') : (ofRat z q).toRat ≤ (ofRat z' q').toRat := by
  by_contra hlt
  have hkey := key_lt_key_iff.mpr (not_le.mp hlt)
  exact absurd (key_ofRat_mono h) (not_le.mpr hkey)

/-- Rounding does not go below an integer of 53 digits. -/
theorem intCast_le_ofRat (hn : n.natAbs ≤ 2 ^ 53) (h : (n : Rat) ≤ q) :
    (n : Rat) ≤ (ofRat zeroNegative q).toRat := by
  rw [← (isInt_ofRat_intCast zeroNegative hn).toRat]
  exact toRat_ofRat_mono h

theorem ofRat_le_intCast (hn : n.natAbs ≤ 2 ^ 53) (h : q ≤ n) :
    (ofRat zeroNegative q).toRat ≤ n := by
  rw [← (isInt_ofRat_intCast zeroNegative hn).toRat]
  exact toRat_ofRat_mono h

theorem isFinite_iff_key {x : Double} : x.isFinite = true ↔ x.key.natAbs < infiniteMagnitude := by
  unfold isFinite key
  rw [decide_eq_true_eq]
  cases x.isNegative <;> simp

theorem isFinite_ofRat (hge : -2 ^ 53 ≤ q) (hle : q ≤ 2 ^ 53) :
    (ofRat zeroNegative q).isFinite = true := by
  have hlow : (ofRat zeroNegative ((-2 ^ 53 : Int) : Rat)).key ≤ (ofRat zeroNegative q).key :=
    key_ofRat_mono (by exact_mod_cast hge)
  have hhigh : (ofRat zeroNegative q).key ≤ (ofRat zeroNegative ((2 ^ 53 : Int) : Rat)).key :=
    key_ofRat_mono (by exact_mod_cast hle)
  have hlow' := isFinite_iff_key.mp (isInt_ofRat_intCast zeroNegative
    (n := -2 ^ 53) (by decide)).isFinite
  have hhigh' := isFinite_iff_key.mp (isInt_ofRat_intCast zeroNegative
    (n := 2 ^ 53) (by decide)).isFinite
  rw [isFinite_iff_key]
  omega

/-! ## Quotients -/

/-- A quotient of integers that is not zero is not among the numbers of the finest grid. -/
theorem gridExponent_div_ne (hm : 0 < m) (hle : m ≤ 2 ^ 53) (hn : n ≠ 0) :
    gridExponent |(n : Rat) / m| ≠ -1074 := by
  intro hfinest
  have hm' : (0 : Rat) < m := by exact_mod_cast hm
  have hle' : (m : Rat) ≤ 2 ^ 53 := by exact_mod_cast hle
  have hone : (1 : Rat) ≤ |(n : Rat)| := by exact_mod_cast Int.one_le_abs hn
  have hpos : 0 < |(n : Rat) / m| := abs_pos.mpr (div_ne_zero (by exact_mod_cast hn) hm'.ne')
  obtain ⟨-, hlt, -⟩ := gridExponent_spec hpos
  rw [hfinest, abs_div, abs_of_pos hm', div_lt_iff₀ hm'] at hlt
  have hsmall : (2 : Rat) ^ (-1074 + 53 : Int) ≤ 2 ^ (-53 : Int) := two_zpow_le (by decide)
  have hprod : (2 : Rat) ^ (-1074 + 53 : Int) * m ≤ 2 ^ (-53 : Int) * 2 ^ 53 :=
    mul_le_mul hsmall hle' hm'.le (two_zpow_pos _).le
  have hunit : (2 : Rat) ^ (-53 : Int) * 2 ^ 53 = 1 := by norm_num
  linarith

/-- Rounding moves a quotient of integers by a part in `2 ^ 53` at most. -/
theorem toRat_ofRat_div_near (hm : 0 < m) (hle : m ≤ 2 ^ 53) (hn : n ≠ 0)
    (hfinite : (ofRat zeroNegative ((n : Rat) / m)).isFinite = true) :
    |(ofRat zeroNegative ((n : Rat) / m)).toRat - (n : Rat) / m| ≤ |(n : Rat) / m| / 2 ^ 53 := by
  have hm' : (m : Rat) ≠ 0 := by exact_mod_cast hm.ne'
  have hquotient : (n : Rat) / m ≠ 0 := div_ne_zero (by exact_mod_cast hn) hm'
  have hnear := toRat_ofRat_near hquotient hfinite
  have hgrid := (gridExponent_spec (abs_pos.mpr hquotient)).2.2 (gridExponent_div_ne hm hle hn)
  rw [two_zpow_add_52] at hgrid
  calc |(ofRat zeroNegative ((n : Rat) / m)).toRat - (n : Rat) / m|
      ≤ 2 ^ gridExponent |(n : Rat) / m| / 2 := hnear
    _ = 2 ^ 52 * 2 ^ gridExponent |(n : Rat) / m| / 2 ^ 53 := by ring
    _ ≤ |(n : Rat) / m| / 2 ^ 53 := div_le_div_of_nonneg_right hgrid (by norm_num)

/-- A quotient that is rounded onto an integer is that integer. -/
theorem eq_of_ofRat_div_eq (hm : 0 < m) (hle : m ≤ 2 ^ 53) (hn : n.natAbs < 2 ^ 53)
    (hfinite : (ofRat zeroNegative ((n : Rat) / m)).isFinite = true)
    (h : (ofRat zeroNegative ((n : Rat) / m)).toRat = k) : n = k * m := by
  have hm' : (0 : Rat) < m := by exact_mod_cast hm
  by_contra hne
  rcases eq_or_ne n 0 with rfl | hn₀
  · have hzero : (ofRat zeroNegative ((0 : Int) : Rat)).toRat = (0 : Int) :=
      (isInt_ofRat_intCast zeroNegative (by decide)).toRat
    rw [Int.cast_zero, zero_div] at h
    rw [Int.cast_zero, h] at hzero
    have hk : k = 0 := by exact_mod_cast hzero
    exact hne (by rw [hk, zero_mul])
  · have hnear := toRat_ofRat_div_near hm hle hn₀ hfinite
    rw [h] at hnear
    -- the distance to the integer in units of the reciprocal of the divisor
    have haway : (1 : Rat) ≤ |((k * m - n : Int) : Rat)| := by
      exact_mod_cast Int.one_le_abs (by omega)
    have hdistance : |(k : Rat) - n / m| = |((k * m - n : Int) : Rat)| / m := by
      rw [← abs_of_pos hm', ← abs_div, abs_of_pos hm']
      congr 1
      push_cast
      field_simp
    have hlt : |(n : Rat)| < 2 ^ 53 := by
      rw [← Int.cast_abs, Int.abs_eq_natAbs]
      exact_mod_cast hn
    rw [hdistance, abs_div, abs_of_pos hm', div_right_comm, div_le_div_iff_of_pos_right hm',
      le_div_iff₀ (by norm_num)] at hnear
    linarith

/-! ## The integers next to a quotient -/

theorem isFinite_ofRat_div (zeroNegative : Bool) (hm : 0 < m) (hn : n.natAbs ≤ 2 ^ 53) :
    (ofRat zeroNegative ((n : Rat) / m)).isFinite = true := by
  have hm' : (1 : Rat) ≤ m := by exact_mod_cast hm
  have hlow : (-2 ^ 53 : Rat) ≤ n := by exact_mod_cast (by omega : (-2 ^ 53 : Int) ≤ n)
  have hhigh : (n : Rat) ≤ 2 ^ 53 := by exact_mod_cast (by omega : n ≤ (2 ^ 53 : Int))
  apply isFinite_ofRat
  · rw [le_div_iff₀ (by linarith)]
    nlinarith
  · rw [div_le_iff₀ (by linarith)]
    nlinarith

/-- The integer below a quotient stays the integer below it. -/
theorem floor_ofRat_div (hm : 0 < m) (hle : m ≤ 2 ^ 53) (hn : n.natAbs < 2 ^ 53) :
    (ofRat zeroNegative ((n : Rat) / m)).toRat.floor = n / m := by
  have hm' : (0 : Rat) < m := by exact_mod_cast hm
  have hsmall := Int.natAbs_ediv_le_natAbs n m
  have hbelow : n / m * m ≤ n := Int.ediv_mul_le n hm.ne'
  have habove : n < (n / m + 1) * m := Int.lt_ediv_add_one_mul_self n hm
  have hge : ((n / m : Int) : Rat) ≤ (ofRat zeroNegative ((n : Rat) / m)).toRat := by
    apply intCast_le_ofRat (by omega)
    rw [le_div_iff₀ hm']
    exact_mod_cast hbelow
  have hlt : (ofRat zeroNegative ((n : Rat) / m)).toRat < ((n / m + 1 : Int) : Rat) := by
    apply lt_of_le_of_ne
    · apply ofRat_le_intCast (by omega)
      rw [div_le_iff₀ hm']
      exact_mod_cast habove.le
    · intro heq
      have hfinite := isFinite_ofRat_div zeroNegative hm hn.le
      exact habove.ne (eq_of_ofRat_div_eq hm hle hn hfinite heq)
  have h₁ := Rat.le_floor_iff.mpr hge
  have h₂ := Rat.floor_lt_iff.mpr hlt
  omega

/-- The integer above a quotient stays the integer above it. -/
theorem ceil_ofRat_div (hm : 0 < m) (hle : m ≤ 2 ^ 53) (hn : n.natAbs < 2 ^ 53) :
    (ofRat zeroNegative ((n : Rat) / m)).toRat.ceil = -(-n / m) := by
  have hm' : (0 : Rat) < m := by exact_mod_cast hm
  have hsmall := Int.natAbs_ediv_le_natAbs (-n) m
  rw [Int.natAbs_neg] at hsmall
  have habove : n ≤ -(-n / m) * m := by
    have := Int.ediv_mul_le (-n) hm.ne'
    linarith
  have hbelow : (-(-n / m) - 1) * m < n := by
    have := Int.lt_ediv_add_one_mul_self (-n) hm
    linarith
  have hle' : (ofRat zeroNegative ((n : Rat) / m)).toRat ≤ ((-(-n / m) : Int) : Rat) := by
    apply ofRat_le_intCast (by omega)
    rw [div_le_iff₀ hm']
    exact_mod_cast habove
  have hgt : ((-(-n / m) - 1 : Int) : Rat) < (ofRat zeroNegative ((n : Rat) / m)).toRat := by
    apply lt_of_le_of_ne
    · apply intCast_le_ofRat (by omega)
      rw [le_div_iff₀ hm']
      exact_mod_cast hbelow.le
    · intro heq
      have hfinite := isFinite_ofRat_div zeroNegative hm hn.le
      exact hbelow.ne' (eq_of_ofRat_div_eq hm hle hn hfinite heq.symm)
  have h₁ := Rat.ceil_le_iff.mpr hle'
  have h₂ := Rat.lt_ceil_iff.mpr hgt
  omega

variable {x y : Double}

/-- The quotient of two integral numbers is the exact quotient, rounded. -/
theorem IsInt.div_eq (hx : IsInt x n) (hy : IsInt y m) (hm : m ≠ 0) :
    x / y = ofRat (x.isNegative != y.isNegative) ((n : Rat) / m) := by
  have hmagnitude : y.magnitude ≠ 0 := by
    intro hzero
    have htoRat := toRat_eq y
    rw [size_eq_zero_iff.mpr hzero, hy.toRat, neg_zero, ite_self] at htoRat
    exact hm (by exact_mod_cast htoRat)
  show div x y = _
  unfold div
  simp only [isNaN_of_isFinite hx.isFinite, isNaN_of_isFinite hy.isFinite,
    isInfinite_of_isFinite hx.isFinite, isInfinite_of_isFinite hy.isFinite, hx.toRat, hy.toRat,
    Bool.or_self, Bool.false_eq_true, if_false, beq_iff_eq, hmagnitude]

theorem IsInt.floor_div (hx : IsInt x n) (hy : IsInt y m) (hm : 0 < m) (hle : m ≤ 2 ^ 53)
    (hn : n.natAbs < 2 ^ 53) : IsInt (x / y).floor (n / m) := by
  have hfinite := isFinite_ofRat_div (x.isNegative != y.isNegative) hm hn.le
  have hsmall := Int.natAbs_ediv_le_natAbs n m
  rw [hx.div_eq hy hm.ne']
  unfold Double.floor
  rw [if_pos hfinite, floor_ofRat_div hm hle hn]
  exact isInt_ofRat_intCast _ (by omega)

theorem IsInt.ceil_div (hx : IsInt x n) (hy : IsInt y m) (hm : 0 < m) (hle : m ≤ 2 ^ 53)
    (hn : n.natAbs < 2 ^ 53) : IsInt (x / y).ceil (-(-n / m)) := by
  have hfinite := isFinite_ofRat_div (x.isNegative != y.isNegative) hm hn.le
  have hsmall := Int.natAbs_ediv_le_natAbs (-n) m
  rw [hx.div_eq hy hm.ne']
  unfold Double.ceil
  rw [if_pos hfinite, ceil_ofRat_div hm hle hn]
  exact isInt_ofRat_intCast _ (by omega)

end Specimen.Double
