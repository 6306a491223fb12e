import Mathlib.Algebra.Order.Field.Rat
import Mathlib.Data.Rat.Floor
import Mathlib.Tactic.FieldSimp
import Mathlib.Tactic.Positivity
import Specimen.Double

/-!
# Integers among the numbers

An integer of at most 53 binary digits is a grid point of the grid it is rounded
on, so rounding gives it back (`isInt_ofInt`). The bounds that a schema writes as
such integers are therefore the bounds that integers are drawn between
(`IsInt.ceil`, `IsInt.floor`, `IsInt.toInt64`).

A longer integer is rounded on a grid that has only integers on it. So integers
are rounded to integers whatever their size, and the product of two integral
numbers is integral unless it is infinite (`isIntegral_mul`).
-/

namespace Specimen.Double

/-! ## Signs and magnitudes -/

theorem magnitude_ofMagnitude {m : Nat} (h : m < 2 ^ 63) (negative : Bool) :
    (ofMagnitude negative m).magnitude = m := by
  unfold magnitude ofMagnitude
  cases negative <;> simp only [UInt64.toNat_ofNat'] <;> simp <;> omega

theorem isNegative_ofMagnitude {m : Nat} (h : m < 2 ^ 63) (negative : Bool) :
    (ofMagnitude negative m).isNegative = negative := by
  unfold isNegative ofMagnitude
  cases negative <;> simp only [UInt64.toNat_ofNat'] <;> simp <;> omega

theorem magnitude_neg (x : Double) : x.neg.magnitude = x.magnitude :=
  magnitude_ofMagnitude (Nat.mod_lt _ (by decide)) _

theorem toRat_neg (x : Double) : x.neg.toRat = -x.toRat := by
  have hnegative : x.neg.isNegative = !x.isNegative :=
    isNegative_ofMagnitude (Nat.mod_lt _ (by decide)) _
  unfold toRat significand exponent
  rw [magnitude_neg, hnegative]
  cases x.isNegative <;> simp

/-- The number whose significand is `g` on the grid of exponent `w - 52`. -/
theorem toRat_ofMagnitude {w g : Nat} (hw : w ≤ 53) (hg : 2 ^ 52 ≤ g ∧ g < 2 ^ 53)
    (negative : Bool) :
    (ofMagnitude negative ((w + 1022) * 2 ^ 52 + g)).toRat
      = if negative then -((g : Rat) * 2 ^ ((w : Int) - 52))
        else (g : Rat) * 2 ^ ((w : Int) - 52) := by
  have hlt : (w + 1022) * 2 ^ 52 + g < 2 ^ 63 := by omega
  have hsignificand : (ofMagnitude negative ((w + 1022) * 2 ^ 52 + g)).significand = g := by
    unfold significand
    rw [magnitude_ofMagnitude hlt, if_neg (by omega)]
    omega
  have hexponent : (ofMagnitude negative ((w + 1022) * 2 ^ 52 + g)).exponent = (w : Int) - 52 := by
    unfold exponent
    rw [magnitude_ofMagnitude hlt]
    omega
  unfold toRat
  rw [hsignificand, hexponent, isNegative_ofMagnitude hlt]

/-! ## Rounding -/

theorem roundHalfEven_natCast (n : Nat) : roundHalfEven (n : Rat) = n := by
  have hfloor : (n : Rat).floor = (n : Int) := Rat.floor_intCast n
  unfold roundHalfEven
  dsimp only
  rw [hfloor]
  simp

/-- A positive integer of at most 53 digits is a point of its grid. -/
theorem exists_significand {m : Nat} (hpos : 0 < m) (h : m ≤ 2 ^ 53) :
    m.log2 ≤ 53
      ∧ ∃ g : Nat, 2 ^ 52 ≤ g ∧ g < 2 ^ 53 ∧ (m : Rat) = g * 2 ^ ((m.log2 : Int) - 52) := by
  have hle : 2 ^ m.log2 ≤ m := Nat.log2_self_le (by omega)
  have hlt : m < 2 ^ (m.log2 + 1) := Nat.lt_log2_self
  have hlog : m.log2 ≤ 53 := by
    by_contra hgt
    have hpow : 2 ^ 54 ≤ 2 ^ m.log2 := Nat.pow_le_pow_right (by decide) (by omega)
    omega
  refine ⟨hlog, ?_⟩
  rcases Nat.lt_or_ge m.log2 53 with hsmall | hbig
  · refine ⟨m * 2 ^ (52 - m.log2), ?_, ?_, ?_⟩
    · calc 2 ^ 52 = 2 ^ m.log2 * 2 ^ (52 - m.log2) := by rw [← Nat.pow_add]; congr 1; omega
        _ ≤ m * 2 ^ (52 - m.log2) := Nat.mul_le_mul_right _ hle
    · calc m * 2 ^ (52 - m.log2) < 2 ^ (m.log2 + 1) * 2 ^ (52 - m.log2) :=
            Nat.mul_lt_mul_of_pos_right hlt (by positivity)
        _ = 2 ^ 53 := by rw [← Nat.pow_add]; congr 1; omega
    · have hexponent : (m.log2 : Int) - 52 = -((52 - m.log2 : Nat) : Int) := by omega
      rw [hexponent, zpow_neg, zpow_natCast]
      push_cast
      field_simp
  · have heq : m.log2 = 53 := by omega
    rw [heq] at hle
    refine ⟨2 ^ 52, by decide, by decide, ?_⟩
    rw [heq, Nat.le_antisymm h hle]
    norm_num

theorem gridExponent_natCast {m : Nat} (hpos : 0 < m) :
    gridExponent (m : Rat) = (m.log2 : Int) - 52 := by
  have hle : ¬ (m : Rat) < (2 : Rat) ^ (m.log2 : Int) := by
    rw [zpow_natCast]
    have hle : 2 ^ m.log2 ≤ m := Nat.log2_self_le (by omega)
    exact not_lt.mpr (by exact_mod_cast hle)
  have hden : Nat.log2 1 = 0 := by decide
  unfold gridExponent
  simp only [Rat.num_natCast, Rat.den_natCast, Int.natAbs_natCast, hden, Nat.cast_zero, sub_zero,
    if_neg hle]
  omega

theorem nearestMagnitude_natCast {m : Nat} (hpos : 0 < m) (h : m ≤ 2 ^ 53) :
    ∃ w g : Nat, w ≤ 53 ∧ (2 ^ 52 ≤ g ∧ g < 2 ^ 53) ∧ (m : Rat) = g * 2 ^ ((w : Int) - 52)
      ∧ nearestMagnitude m = (w + 1022) * 2 ^ 52 + g := by
  obtain ⟨hlog, g, hge, hlt, heq⟩ := exists_significand hpos h
  refine ⟨m.log2, g, hlog, ⟨hge, hlt⟩, heq, ?_⟩
  have hquotient : (m : Rat) / 2 ^ ((m.log2 : Int) - 52) = (g : Rat) := by
    rw [div_eq_iff (zpow_ne_zero _ (by norm_num))]
    exact heq
  unfold nearestMagnitude
  dsimp only
  rw [gridExponent_natCast hpos, hquotient, roundHalfEven_natCast]
  unfold infiniteMagnitude
  omega

/-! ## Finite numbers -/

theorem isFinite_neg (x : Double) : x.neg.isFinite = x.isFinite := by
  unfold isFinite
  rw [magnitude_neg]

theorem isNaN_of_isFinite {x : Double} (h : x.isFinite = true) : x.isNaN = false := by
  have hfinite : x.magnitude < infiniteMagnitude := of_decide_eq_true h
  unfold isNaN
  rw [decide_eq_false_iff_not]
  omega

theorem isInfinite_of_isFinite {x : Double} (h : x.isFinite = true) : x.isInfinite = false := by
  have hfinite : x.magnitude < infiniteMagnitude := of_decide_eq_true h
  unfold isInfinite
  rw [beq_eq_false_iff_ne]
  omega

/-- A finite number minus itself is zero. -/
theorem toRat_abs_add_neg {x : Double} (h : x.isFinite = true) : (x.add x.neg).abs.toRat = 0 := by
  have hneg : x.neg.isFinite = true := isFinite_neg x ▸ h
  have hzero (negative : Bool) : (ofRat negative 0).abs.toRat = 0 := by
    cases negative <;> decide +kernel
  unfold add
  rw [isNaN_of_isFinite h, isNaN_of_isFinite hneg, isInfinite_of_isFinite h,
    isInfinite_of_isFinite hneg, toRat_neg, add_neg_cancel]
  exact hzero _

/-! ## Integers -/

/-- A finite number that denotes an integer. -/
structure IsInt (x : Double) (n : Int) : Prop where
  isFinite : x.isFinite = true
  toRat : x.toRat = n

theorem isInt_zero (negative : Bool) : IsInt (zero negative) 0 where
  isFinite := by cases negative <;> decide
  toRat := by cases negative <;> decide +kernel

/-- An integer of at most 53 digits is rounded to itself. -/
theorem isInt_ofRat_intCast (zeroNegative : Bool) {n : Int} (h : n.natAbs ≤ 2 ^ 53) :
    IsInt (ofRat zeroNegative n) n := by
  have hmagnitude {m : Nat} (hpos : 0 < m) (hle : m ≤ 2 ^ 53) (negative : Bool) :
      IsInt (ofMagnitude negative (nearestMagnitude m)) (if negative then -m else m) := by
    obtain ⟨w, g, hw, hg, hm, hnearest⟩ := nearestMagnitude_natCast hpos hle
    rw [hnearest]
    constructor
    · unfold isFinite infiniteMagnitude
      rw [magnitude_ofMagnitude (by omega), decide_eq_true_eq]
      omega
    · rw [toRat_ofMagnitude hw hg, ← hm]
      cases negative <;> simp
  unfold ofRat
  rcases Int.lt_trichotomy n 0 with hneg | rfl | hpos
  · obtain ⟨m, rfl⟩ : ∃ m : Nat, n = -(m : Int) := ⟨n.natAbs, by omega⟩
    have hcast : -((-(m : Int) : Int) : Rat) = (m : Rat) := by push_cast; exact neg_neg _
    rw [if_neg (by exact_mod_cast hneg.ne), if_pos (by exact_mod_cast hneg), hcast]
    simpa using hmagnitude (m := m) (by omega) (by omega) true
  · simpa using isInt_zero zeroNegative
  · obtain ⟨m, rfl⟩ : ∃ m : Nat, n = (m : Int) := ⟨n.natAbs, by omega⟩
    rw [if_neg (by exact_mod_cast hpos.ne'), if_neg (by exact_mod_cast hpos.not_gt)]
    simpa using hmagnitude (m := m) (by omega) (by omega) false

theorem isInt_ofInt {n : Int} (h : n.natAbs ≤ 2 ^ 53) : IsInt (ofInt n) n :=
  isInt_ofRat_intCast false h

variable {x : Double} {n : Int}

theorem IsInt.ceil (hx : IsInt x n) (h : n.natAbs ≤ 2 ^ 53) : IsInt x.ceil n := by
  unfold Double.ceil
  rw [if_pos hx.isFinite, hx.toRat, Rat.ceil_intCast]
  exact isInt_ofRat_intCast _ h

theorem IsInt.floor (hx : IsInt x n) (h : n.natAbs ≤ 2 ^ 53) : IsInt x.floor n := by
  unfold Double.floor
  rw [if_pos hx.isFinite, hx.toRat, Rat.floor_intCast]
  exact isInt_ofRat_intCast _ h

theorem IsInt.toIntClamped (hx : IsInt x n) (lo hi : Int) :
    x.toIntClamped lo hi = max lo (min hi n) := by
  unfold Double.toIntClamped
  rw [isNaN_of_isFinite hx.isFinite, isInfinite_of_isFinite hx.isFinite, hx.toRat,
    Rat.num_intCast, Rat.den_intCast]
  simp only [Bool.false_eq_true, if_false, Nat.cast_one, Int.tdiv_one]

theorem IsInt.toInt64 (hx : IsInt x n) (h : n.natAbs ≤ 2 ^ 53) : x.toInt64 = n := by
  unfold Double.toInt64 int64Min int64Max
  rw [hx.toIntClamped]
  omega

/-! ## Products -/

theorem isIntegral_iff {x : Double} :
    x.isIntegral = true ↔ x.isFinite = true ∧ ∃ n : Int, x.toRat = n := by
  unfold isIntegral
  rw [Bool.and_eq_true, beq_iff_eq]
  refine and_congr_right fun _ => ⟨fun hden => ⟨x.toRat.num, ?_⟩, ?_⟩
  · exact (Rat.den_eq_one_iff _).mp hden |>.symm
  · rintro ⟨n, hn⟩
    rw [hn, Rat.den_intCast]

theorem IsInt.isIntegral (hx : IsInt x n) : x.isIntegral = true :=
  isIntegral_iff.mpr ⟨hx.isFinite, n, hx.toRat⟩

/-- From the magnitude of `2 ^ 52` on, the exponent scales up. -/
theorem isIntegral_of_magnitude (hfinite : x.isFinite = true)
    (h : 1075 * 2 ^ 52 ≤ x.magnitude) : x.isIntegral = true := by
  obtain ⟨e, he⟩ : ∃ e : Nat, x.exponent = e := by
    refine ⟨x.magnitude / 2 ^ 52 - 1075, ?_⟩
    unfold exponent
    omega
  have hsize : (x.significand : Rat) * (2 : Rat) ^ x.exponent
      = ((x.significand * 2 ^ e : Nat) : Int) := by
    rw [he, zpow_natCast]
    push_cast
    rfl
  refine isIntegral_iff.mpr ⟨hfinite, ?_⟩
  unfold toRat
  dsimp only
  rw [hsize]
  cases x.isNegative with
  | false => exact ⟨_, if_neg (by decide)⟩
  | true => exact ⟨-((x.significand * 2 ^ e : Nat) : Int), by rw [if_pos rfl, Int.cast_neg]⟩

/-- An integer of more than 53 digits is rounded on a grid of integers. -/
theorem magnitude_le_nearestMagnitude {m : Nat} (h : 2 ^ 53 ≤ m) :
    1075 * 2 ^ 52 ≤ nearestMagnitude m := by
  have hlog : 53 ≤ m.log2 := (Nat.le_log2 (by omega)).mpr h
  unfold nearestMagnitude
  dsimp only
  rw [gridExponent_natCast (by omega)]
  unfold infiniteMagnitude
  omega

theorem nearestMagnitude_le (q : Rat) : nearestMagnitude q ≤ infiniteMagnitude :=
  Nat.min_le_left ..

/-- An integer is rounded to an integer, if not to infinity. -/
theorem isIntegral_ofRat_intCast {zeroNegative : Bool} {n : Int}
    (hfinite : (ofRat zeroNegative n).isFinite = true) :
    (ofRat zeroNegative n).isIntegral = true := by
  rcases Nat.lt_or_ge (2 ^ 53) n.natAbs with hlarge | hsmall
  · have hmagnitude (negative : Bool) {m : Nat} (hm : 2 ^ 53 ≤ m)
        (hfinite : (ofMagnitude negative (nearestMagnitude m)).isFinite = true) :
        (ofMagnitude negative (nearestMagnitude m)).isIntegral = true := by
      have hle := nearestMagnitude_le m
      unfold infiniteMagnitude at hle
      refine isIntegral_of_magnitude hfinite ?_
      rw [magnitude_ofMagnitude (by omega)]
      exact magnitude_le_nearestMagnitude hm
    unfold ofRat at hfinite ⊢
    rw [if_neg (by exact_mod_cast (show n ≠ 0 by omega))] at hfinite ⊢
    rcases Int.lt_or_gt_of_ne (show n ≠ 0 by omega) with hneg | hpos
    · have hcast : -(n : Rat) = (n.natAbs : Rat) := by
        rw [← Int.cast_neg, show -n = (n.natAbs : Int) by omega, Int.cast_natCast]
      rw [if_pos (by exact_mod_cast hneg), hcast] at hfinite ⊢
      exact hmagnitude true (by omega) hfinite
    · have hcast : (n : Rat) = (n.natAbs : Rat) := by
        rw [show n = (n.natAbs : Int) by omega, Int.cast_natCast, Int.natAbs_natCast]
      rw [if_neg (by exact_mod_cast hpos.not_gt), hcast] at hfinite ⊢
      exact hmagnitude false (by omega) hfinite
  · exact (isInt_ofRat_intCast zeroNegative hsmall).isIntegral

/-- A product of finite numbers is the exact product, rounded. -/
theorem mul_of_isFinite {y : Double} (h : (x * y).isFinite = true) :
    x.isFinite = true ∧ y.isFinite = true
      ∧ x * y = ofRat (x.isNegative != y.isNegative) (x.toRat * y.toRat) := by
  have hnan : nan.isFinite = false := by decide
  have hinfinity (negative : Bool) : (infinity negative).isFinite = false := by
    cases negative <;> decide
  have hfinite {z : Double} (hz : z.isNaN = false) (hz' : z.isInfinite = false) :
      z.isFinite = true := by
    unfold isNaN at hz
    unfold isInfinite at hz'
    unfold isFinite
    rw [decide_eq_false_iff_not] at hz
    rw [beq_eq_false_iff_ne] at hz'
    rw [decide_eq_true_eq]
    omega
  change (mul x y).isFinite = true at h
  show _ ∧ _ ∧ mul x y = _
  unfold mul at h ⊢
  dsimp only at h ⊢
  split at h
  · rw [hnan] at h
    cases h
  · next hnans =>
      rw [Bool.or_eq_true, not_or, Bool.not_eq_true, Bool.not_eq_true] at hnans
      split at h
      · split at h
        · rw [hnan] at h
          cases h
        · rw [hinfinity] at h
          cases h
      · next hinfinite =>
          rw [if_neg (by simp [hnans]), if_neg hinfinite]
          rw [Bool.or_eq_true, not_or, Bool.not_eq_true, Bool.not_eq_true] at hinfinite
          exact ⟨hfinite hnans.1 hinfinite.1, hfinite hnans.2 hinfinite.2, rfl⟩

theorem isIntegral_ofInt (h : (ofInt n).isFinite = true) : (ofInt n).isIntegral = true :=
  isIntegral_ofRat_intCast h

theorem isIntegral_mul {y : Double} (hx : x.isIntegral = true) (hy : y.isIntegral = true)
    (h : (x * y).isFinite = true) : (x * y).isIntegral = true := by
  obtain ⟨-, m, hm⟩ := isIntegral_iff.mp hx
  obtain ⟨-, n, hn⟩ := isIntegral_iff.mp hy
  obtain ⟨-, -, heq⟩ := mul_of_isFinite h
  have hproduct : x * y = ofRat (x.isNegative != y.isNegative) ((m * n : Int) : Rat) := by
    rw [heq, hm, hn]
    push_cast
    rfl
  rw [hproduct] at h ⊢
  exact isIntegral_ofRat_intCast h

end Specimen.Double
