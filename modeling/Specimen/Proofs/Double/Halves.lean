import Specimen.Proofs.Double.Nearest

/-!
# Halves and middles

The middle of two numbers is the sum of their halves, so that it is no larger than they are.
Both steps round: an odd number of the smallest steps has no half (`rounded_half`), and the sum
goes to a number nearby. Still the middle of two different numbers is not outside of them
(`middle_between`), and where there is a number strictly between them it is strictly between
them too (`lt_middle`, `middle_lt`).

Every number is a whole number of the smallest steps, and an odd one is less than `2 ^ 53` of
them (`exists_units`). So a half is off by half such a step at most, which is made up for by
rounding to an even number of steps, and what is left is an argument about integers.
-/

namespace Specimen.Double

variable {a b x y z : Double} {q : Rat} {n m k : Int}

/-! ## The smallest steps -/

/-- A number of the smallest steps. -/
def units (n : Int) : Rat := n * 2 ^ (-1074 : Int)

theorem units_lt_units : units n < units m ↔ n < m :=
  (mul_lt_mul_iff_left₀ (two_zpow_pos _)).trans Int.cast_lt

theorem units_le_units : units n ≤ units m ↔ n ≤ m :=
  (mul_le_mul_iff_left₀ (two_zpow_pos _)).trans Int.cast_le

theorem units_inj : units n = units m ↔ n = m := by
  rw [le_antisymm_iff, units_le_units, units_le_units, ← le_antisymm_iff]

theorem units_add : units (n + m) = units n + units m := by
  unfold units
  rw [Int.cast_add, add_mul]

theorem units_neg : units (-n) = -units n := by
  unfold units
  rw [Int.cast_neg, neg_mul]

/-- A number is a whole number of the smallest steps, an even one or a small one. -/
theorem exists_units (x : Double) :
    ∃ n : Int, x.toRat = units n ∧ (n % 2 = 0 ∨ n.natAbs < 2 ^ 53) := by
  have hsize : ∃ n : Int, x.size = units n ∧ (n % 2 = 0 ∨ n.natAbs < 2 ^ 53) := by
    by_cases hfinest : x.exponent = -1074
    · refine ⟨x.significand, ?_, .inr x.significand_lt⟩
      unfold size units
      rw [hfinest, Int.cast_natCast]
    · have hexponent := x.exponent_ge
      obtain ⟨n, hn⟩ := exists_steps (x := x) (e := -1073) (by omega)
      refine ⟨n * 2, ?_, .inl (by omega)⟩
      rw [hn, units, show (-1073 : Int) = 1 + -1074 by decide, zpow_add₀ (by norm_num), zpow_one,
        ← mul_assoc, Int.cast_mul, Int.cast_ofNat]
  obtain ⟨n, hn, hsmall⟩ := hsize
  rw [toRat_eq]
  split
  · exact ⟨-n, by rw [hn, units_neg], by omega⟩
  · exact ⟨n, hn, hsmall⟩

/-- The smallest numbers go up by one step each. -/
theorem exists_ofUnits (h : n.natAbs ≤ 2 ^ 53) :
    ∃ x : Double, x.isFinite = true ∧ x.toRat = units n := by
  have hlt : n.natAbs < 2 ^ 63 := by omega
  have hmagnitude (negative : Bool) := magnitude_ofMagnitude hlt negative
  have hsize (negative : Bool) : (ofMagnitude negative n.natAbs).size = units n.natAbs :=
    size_of_magnitude (by decide) h (fun hne => absurd rfl hne) (by rw [hmagnitude]; omega)
  refine ⟨ofMagnitude (decide (n < 0)) n.natAbs, ?_, ?_⟩
  · unfold isFinite infiniteMagnitude
    rw [hmagnitude, decide_eq_true_eq]
    omega
  · rw [toRat_eq, isNegative_ofMagnitude hlt, hsize]
    by_cases hneg : n < 0
    · rw [if_pos (decide_eq_true hneg), ← units_neg]
      congr 1
      omega
    · rw [if_neg (by simpa using hneg)]
      congr 1
      omega

/-! ## Halves -/

/-- Half of an integer is rounded to the even one of its neighbours. -/
theorem roundHalfEven_half (n : Int) : 2 * roundHalfEven ((n : Rat) / 2) = n
    ∨ roundHalfEven ((n : Rat) / 2) % 2 = 0
      ∧ (2 * roundHalfEven ((n : Rat) / 2) = n + 1
        ∨ 2 * roundHalfEven ((n : Rat) / 2) = n - 1) := by
  obtain ⟨k, rfl | rfl⟩ : ∃ k, n = 2 * k ∨ n = 2 * k + 1 := ⟨n / 2, by omega⟩
  · left
    rw [show ((2 * k : Int) : Rat) / 2 = (k : Rat) by push_cast; ring, roundHalfEven_intCast]
  · right
    rcases Int.emod_two_eq_zero_or_one k with heven | hodd
    · rw [roundHalfEven_eq (n := k) (by push_cast; linarith) (by push_cast; linarith) (.inl heven)]
      omega
    · rw [roundHalfEven_eq (n := k + 1) (by push_cast; linarith) (by push_cast; linarith)
        (.inl (by omega))]
      omega

theorem isFinite_half (hx : x.isFinite = true) (zeroNegative : Bool) :
    (ofRat zeroNegative (x.toRat / 2)).isFinite = true := by
  have hzero : (zero false).toRat = 0 := by decide +kernel
  rcases le_total 0 x.toRat with h | h
  · exact isFinite_ofRat_of_between (x := zero false) rfl hx (by linarith) (by linarith)
  · exact isFinite_ofRat_of_between (z := zero false) hx rfl (by linarith) (by linarith)

/-- Half of a number is exact, or half a smallest step off and then even. -/
structure IsHalf (n h : Int) : Prop where
  near : 2 * h = n ∨ 2 * h = n + 1 ∨ 2 * h = n - 1
  even : 2 * h = n ∨ h % 2 = 0

theorem IsHalf.neg {h : Int} (hh : IsHalf n h) : IsHalf (-n) (-h) := by
  have hnear := hh.near
  have heven := hh.even
  constructor <;> omega

theorem rounded_half_of_pos (hx : x.isFinite = true) (hn : x.toRat = units n) (hpos : 0 < x.toRat) :
    ∃ h, rounded (x.toRat / 2) = units h ∧ IsHalf n h := by
  have hhalf : 0 < x.toRat / 2 := by linarith
  have heq := rounded_eq hhalf (isFinite_half hx false)
  by_cases hfinest : gridExponent (x.toRat / 2) = -1074
  · have hsteps : x.toRat / 2 / 2 ^ (-1074 : Int) = n / 2 := by
      rw [hn, units, div_right_comm, mul_div_cancel_right₀ _ (two_zpow_pos _).ne']
    rw [hfinest, hsteps] at heq
    have := roundHalfEven_half n
    exact ⟨_, heq, by constructor <;> omega⟩
  · have hstart := (gridExponent_spec hhalf).2.2 hfinest
    have hsize : x.size = x.toRat := (toRat_of_pos hpos).symm
    have hcoarse : gridExponent (x.toRat / 2) + 1 ≤ x.exponent := by
      by_contra hfine
      have hlt := x.size_lt_two_zpow.trans_le
        (two_zpow_le (by omega : x.exponent + 53 ≤ gridExponent (x.toRat / 2) + 52 + 1))
      rw [hsize, zpow_add₀ (by norm_num), zpow_one] at hlt
      linarith
    obtain ⟨m, hm⟩ := exists_steps hcoarse
    have hexact : rounded (x.toRat / 2) = x.toRat / 2 := by
      have hsteps : x.toRat / 2 = m * 2 ^ gridExponent (x.toRat / 2) := by
        rw [zpow_add₀ (by norm_num), zpow_one, hsize] at hm
        linarith
      rw [heq, (div_eq_iff (two_zpow_pos _).ne').mpr hsteps, roundHalfEven_intCast, ← hsteps]
    obtain ⟨h, hh, -⟩ := exists_units (ofRat false (x.toRat / 2))
    have hdouble : 2 * h = n := by
      rw [← units_inj, two_mul, units_add, ← hh, ← hn, toRat_ofRat, hexact]
      ring
    exact ⟨h, hh, .inl hdouble, .inl hdouble⟩

theorem rounded_half (hx : x.isFinite = true) (hn : x.toRat = units n) :
    ∃ h, rounded (x.toRat / 2) = units h ∧ IsHalf n h := by
  rcases lt_trichotomy x.toRat 0 with hneg | hzero | hpos
  · have hnegated : x.neg.toRat = units (-n) := by rw [toRat_neg, hn, units_neg]
    obtain ⟨h, hh, hhalf⟩ := rounded_half_of_pos (isFinite_neg x ▸ hx) hnegated
      (by rw [toRat_neg]; linarith)
    rw [toRat_neg, neg_div, rounded_neg, neg_eq_iff_eq_neg, ← units_neg] at hh
    exact ⟨-h, hh, by simpa using hhalf.neg⟩
  · have hn₀ : n = 0 := by
      rw [← units_inj, ← hn, hzero, units, Int.cast_zero, zero_mul]
    refine ⟨0, ?_, by subst hn₀; constructor <;> omega⟩
    rw [hzero, zero_div, rounded_zero, units, Int.cast_zero, zero_mul]
  · exact rounded_half_of_pos hx hn hpos

/-! ## Middles -/

/-- The sum of the halves of two rationals, each step rounded. -/
def middle (p q : Rat) : Rat := rounded (rounded (p / 2) + rounded (q / 2))

theorem middle_neg (p q : Rat) : middle (-q) (-p) = -middle p q := by
  unfold middle
  rw [neg_div, neg_div, rounded_neg, rounded_neg, ← neg_add, rounded_neg, add_comm]

/-- The sum of the halves of two integers that differ lies between them. -/
theorem IsHalf.between {h h' : Int} (hh : IsHalf n h) (hh' : IsHalf m h') (hlt : n < m) :
    n ≤ h + h' ∧ h + h' ≤ m := by
  have := hh.near
  have := hh'.near
  omega

/-- The middle is not outside of two numbers that differ. -/
theorem middle_between (ha : a.isFinite = true) (hb : b.isFinite = true) (hab : a.toRat < b.toRat) :
    a.toRat ≤ rounded (a.toRat / 2) + rounded (b.toRat / 2)
      ∧ rounded (a.toRat / 2) + rounded (b.toRat / 2) ≤ b.toRat := by
  obtain ⟨n, hn, -⟩ := exists_units a
  obtain ⟨m, hm, -⟩ := exists_units b
  obtain ⟨h, hh, hhalf⟩ := rounded_half ha hn
  obtain ⟨h', hh', hhalf'⟩ := rounded_half hb hm
  rw [hn, hm, units_lt_units] at hab
  rw [hh, hh', hn, hm, ← units_add, units_le_units, units_le_units]
  exact hhalf.between hhalf' hab

theorem abs_units_sub :
    |units n - units m| ≤ |units k - units m| ↔ (n - m).natAbs ≤ (k - m).natAbs := by
  have habs (i : Int) : |units i - units m| = units (i - m).natAbs := by
    unfold units
    rw [← sub_mul, abs_mul, abs_of_pos (two_zpow_pos (-1074)), ← Int.cast_sub, ← Int.cast_abs,
      Int.abs_eq_natAbs]
  rw [habs, habs, units_le_units]
  exact Int.ofNat_le

/-- The one tie on a coarser grid than the finest. It goes up, to the even number. -/
theorem rounded_tie : rounded (units (-2 ^ 53 - 1)) ≠ units (-2 ^ 53 - 2) := by decide +kernel

/-- A sum of halves that is rounded down to the lower number `n`, though no number is closer to
the sum and none between `n` and the sum is small, with a number `k` strictly between `n` and
`m`: that happens at the tie only. -/
theorem IsHalf.eq_tie {h h' : Int} (hh : IsHalf n h) (hh' : IsHalf m h') (hnk : n < k) (hkm : k < m)
    (hn : n % 2 = 0 ∨ n.natAbs < 2 ^ 53) (hm : m % 2 = 0 ∨ m.natAbs < 2 ^ 53)
    (hsmall : ∀ j : Int, j.natAbs ≤ 2 ^ 53 → j ≤ h + h' → j ≤ n)
    (hnear : ∀ j ∈ [k, -2 ^ 53, -2 ^ 53 - 2], (n - (h + h')).natAbs ≤ (j - (h + h')).natAbs) :
    n = -2 ^ 53 - 2 ∧ h + h' = -2 ^ 53 - 1 := by
  have hlow := (hh.between hh' (hnk.trans hkm)).1
  obtain ⟨hhalf, heven⟩ := hh
  obtain ⟨hhalf', heven'⟩ := hh'
  rcases Int.emod_two_eq_zero_or_one n with hparity | hodd
  · -- half of `n` is exact, so `m` is odd and comes right after `k`
    have hexact : 2 * h = n := by omega
    have hnear₁ := hnear k (by simp)
    have hk : 2 * h' = k ∧ m = k + 1 := by omega
    have hbelow : n < -2 ^ 53 := by
      have hnext := hsmall (n + 1)
      omega
    have hpower := hsmall (-2 ^ 53) (by decide)
    have hnear₂ := hnear (-2 ^ 53) (by simp)
    have hnear₃ := hnear (-2 ^ 53 - 2) (by simp)
    omega
  · -- the number after `n` is small, so the sum is `n` itself, but it would have to be even
    have hsum : h + h' = n := by
      have hnext := hsmall (n + 1) (by omega)
      omega
    omega

/-- Where there is a number between two, their middle is above the lower one. -/
theorem lt_middle (ha : a.isFinite = true) (hb : b.isFinite = true) (hay : a.toRat < y.toRat)
    (hyb : y.toRat < b.toRat) : a.toRat < middle a.toRat b.toRat := by
  obtain ⟨hlow, hhigh⟩ := middle_between ha hb (hay.trans hyb)
  obtain ⟨n, hn, hnsmall⟩ := exists_units a
  obtain ⟨k, hk, -⟩ := exists_units y
  obtain ⟨m, hm, hmsmall⟩ := exists_units b
  obtain ⟨h, hh, hhalf⟩ := rounded_half ha hn
  obtain ⟨h', hh', hhalf'⟩ := rounded_half hb hm
  rw [hn, hk, units_lt_units] at hay
  rw [hk, hm, units_lt_units] at hyb
  have hfinite : (ofRat false (rounded (a.toRat / 2) + rounded (b.toRat / 2))).isFinite = true :=
    isFinite_ofRat_of_between ha hb hlow hhigh
  refine lt_of_le_of_ne (le_rounded ha hlow) fun heq => ?_
  unfold middle at heq
  rw [hh, hh', ← units_add] at hfinite heq
  have hsmall (j : Int) (hj : j.natAbs ≤ 2 ^ 53) (hle : j ≤ h + h') : j ≤ n := by
    obtain ⟨z, hz, hvalue⟩ := exists_ofUnits hj
    rw [← units_le_units, ← hvalue, ← hn, heq]
    exact le_rounded hz (hvalue ▸ units_le_units.mpr hle)
  have hnear {j : Int} {z : Double} (hz : z.toRat = units j) :
      (n - (h + h')).natAbs ≤ (j - (h + h')).natAbs := by
    have := rounded_near hfinite z
    rwa [← heq, hn, hz, abs_units_sub] at this
  obtain ⟨hlower, hsum⟩ := hhalf.eq_tie hhalf' hay hyb hnsmall hmsmall hsmall (by
    have hpower : (⟨0x8020000000000000⟩ : Double).toRat = units (-2 ^ 53) := by decide +kernel
    have hnext : (⟨0x8020000000000001⟩ : Double).toRat = units (-2 ^ 53 - 2) := by decide +kernel
    simpa using ⟨hnear hk, hnear hpower, hnear hnext⟩)
  exact rounded_tie (by rw [← hsum, ← heq, hn, hlower])

theorem middle_lt (ha : a.isFinite = true) (hb : b.isFinite = true) (hay : a.toRat < y.toRat)
    (hyb : y.toRat < b.toRat) : middle a.toRat b.toRat < b.toRat := by
  have hlt := lt_middle (y := y.neg) (isFinite_neg b ▸ hb) (isFinite_neg a ▸ ha)
    (by rw [toRat_neg, toRat_neg]; linarith) (by rw [toRat_neg, toRat_neg]; linarith)
  rw [toRat_neg, toRat_neg, middle_neg] at hlt
  linarith

end Specimen.Double
