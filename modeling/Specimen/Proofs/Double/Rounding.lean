import Specimen.Proofs.Double.Grid

/-!
# Rounding to the nearest number

A positive rational is rounded on the grid on which it has 53 binary digits
(`gridExponent_eq`), to the nearest point there. Two facts about that are all that is
needed elsewhere. Rounding keeps the order (`nearestMagnitude_mono`). And the rationals
that are rounded to a number are those in its rounding interval, which reaches half way to
each neighbour (`nearestMagnitude_of_interval`); the number itself is one of them
(`ofRat_toRat`).
-/

namespace Specimen.Double

variable {x : Double} {q q' : Rat}

/-! ## Grids -/

/-- The numerator and the denominator tell the position of the leading digit up to one. -/
theorem two_zpow_log2_bounds (hq : 0 < q) :
    (2 : Rat) ^ ((q.num.natAbs.log2 : Int) - q.den.log2 - 1) < q
      ∧ q < 2 ^ ((q.num.natAbs.log2 : Int) - q.den.log2 + 1) := by
  have hnum : 0 < q.num := Rat.num_pos.mpr hq
  have hvalue : (q.num.natAbs : Rat) / q.den = q := by
    conv_rhs => rw [← Rat.num_div_den q]
    congr 1
    rw [← Int.cast_natCast, Int.natAbs_of_nonneg hnum.le]
  generalize q.num.natAbs = a at hvalue ⊢
  have hden : q.den ≠ 0 := q.den_ne_zero
  generalize q.den = b at hvalue hden ⊢
  have ha : a ≠ 0 := by
    rintro rfl
    rw [Nat.cast_zero, zero_div] at hvalue
    exact hq.ne hvalue
  have hb : (0 : Rat) < b := by exact_mod_cast Nat.pos_of_ne_zero hden
  have ha₁ : (2 : Rat) ^ (a.log2 : Int) ≤ a := by exact_mod_cast Nat.log2_self_le ha
  have ha₂ : (a : Rat) < 2 ^ ((a.log2 : Int) + 1) := by exact_mod_cast (Nat.lt_log2_self (n := a))
  have hb₁ : (2 : Rat) ^ (b.log2 : Int) ≤ b := by exact_mod_cast Nat.log2_self_le hden
  have hb₂ : (b : Rat) < 2 ^ ((b.log2 : Int) + 1) := by exact_mod_cast (Nat.lt_log2_self (n := b))
  rw [← hvalue]
  constructor
  · rw [lt_div_iff₀ hb]
    calc (2 : Rat) ^ ((a.log2 : Int) - b.log2 - 1) * b
        < 2 ^ ((a.log2 : Int) - b.log2 - 1) * 2 ^ ((b.log2 : Int) + 1) :=
          mul_lt_mul_of_pos_left hb₂ (two_zpow_pos _)
      _ = 2 ^ (a.log2 : Int) := by rw [← zpow_add₀ (by norm_num)]; congr 1; omega
      _ ≤ a := ha₁
  · rw [div_lt_iff₀ hb]
    calc (a : Rat) < 2 ^ ((a.log2 : Int) + 1) := ha₂
      _ = 2 ^ ((a.log2 : Int) - b.log2 + 1) * 2 ^ (b.log2 : Int) := by
          rw [← zpow_add₀ (by norm_num)]; congr 1; omega
      _ ≤ 2 ^ ((a.log2 : Int) - b.log2 + 1) * b := mul_le_mul_of_nonneg_left hb₁ (two_zpow_pos _).le

/-- On its grid a positive rational has 53 digits, or fewer if the grid is the finest. -/
theorem gridExponent_spec (hq : 0 < q) :
    -1074 ≤ gridExponent q ∧ q < 2 ^ (gridExponent q + 53)
      ∧ (gridExponent q ≠ -1074 → 2 ^ (gridExponent q + 52) ≤ q) := by
  obtain ⟨hlow, hhigh⟩ := two_zpow_log2_bounds hq
  unfold gridExponent
  dsimp only
  generalize (q.num.natAbs.log2 : Int) - q.den.log2 = w at hlow hhigh ⊢
  split
  · next hlt =>
      refine ⟨by omega, hlt.trans_le (two_zpow_le (by omega)), fun hne => ?_⟩
      exact (two_zpow_le (by omega)).trans hlow.le
  · next hge =>
      refine ⟨by omega, hhigh.trans_le (two_zpow_le (by omega)), fun hne => ?_⟩
      exact (two_zpow_le (by omega)).trans (not_lt.mp hge)

/-- A grid on which a rational has 53 digits is the only one. -/
theorem gridExponent_eq {e : Int} (hq : 0 < q) (he : -1074 ≤ e) (hlt : q < 2 ^ (e + 53))
    (hge : e ≠ -1074 → 2 ^ (e + 52) ≤ q) : gridExponent q = e := by
  obtain ⟨hgrid, hglt, hgge⟩ := gridExponent_spec hq
  rcases lt_trichotomy (gridExponent q) e with h | h | h
  · have hle := hge (by omega)
    exact absurd (hle.trans_lt hglt) (not_lt.mpr (two_zpow_le (by omega)))
  · exact h
  · have hle := hgge (by omega)
    exact absurd (hle.trans_lt hlt) (not_lt.mpr (two_zpow_le (by omega)))

theorem gridExponent_mono (hq : 0 < q) (h : q ≤ q') : gridExponent q ≤ gridExponent q' := by
  obtain ⟨hgrid, -, hge⟩ := gridExponent_spec hq
  obtain ⟨hgrid', hlt', -⟩ := gridExponent_spec (hq.trans_le h)
  by_contra hgt
  have hle := hge (by omega)
  exact absurd (hle.trans_lt (h.trans_lt hlt')) (not_lt.mpr (two_zpow_le (by omega)))

/-! ## Rounding to integers -/

theorem floor_le_roundHalfEven (q : Rat) : q.floor ≤ roundHalfEven q := by
  unfold roundHalfEven
  dsimp only
  split
  · exact le_rfl
  · split
    · omega
    · split <;> omega

theorem roundHalfEven_le_floor_add_one (q : Rat) : roundHalfEven q ≤ q.floor + 1 := by
  unfold roundHalfEven
  dsimp only
  split
  · omega
  · split
    · exact le_rfl
    · split <;> omega

theorem le_roundHalfEven {n : Int} (h : (n : Rat) ≤ q) : n ≤ roundHalfEven q :=
  (Rat.le_floor_iff.mpr h).trans (floor_le_roundHalfEven q)

/-- An integer is the nearest one to the rationals up to a half away; those a half away go
to it if it is even. -/
theorem roundHalfEven_eq {n : Int} (hlow : (n : Rat) - 1 / 2 ≤ q) (hhigh : q ≤ n + 1 / 2)
    (hends : n % 2 = 0 ∨ (n : Rat) - 1 / 2 < q ∧ q < n + 1 / 2) : roundHalfEven q = n := by
  have hfloor : q.floor = n ∨ q.floor = n - 1 := by
    have hge : n - 1 ≤ q.floor := Rat.le_floor_iff.mpr (by push_cast; linarith)
    have hlt : q.floor < n + 1 := Rat.floor_lt_iff.mpr (by push_cast; linarith)
    omega
  unfold roundHalfEven
  dsimp only
  rcases hfloor with heq | heq
  · rw [heq]
    split
    · rfl
    · next hge =>
        rw [if_neg (by linarith)]
        rcases hends with heven | ⟨-, hlt⟩
        · rw [if_pos heven]
        · linarith
  · rw [heq]
    push_cast
    rw [if_neg (by linarith)]
    split
    · omega
    · next hle =>
        rcases hends with heven | ⟨hlt, -⟩
        · rw [if_neg (by omega)]
          omega
        · linarith

theorem roundHalfEven_intCast (n : Int) : roundHalfEven n = n :=
  roundHalfEven_eq (by linarith) (by linarith) (.inr ⟨by linarith, by linarith⟩)

theorem roundHalfEven_mono (h : q ≤ q') : roundHalfEven q ≤ roundHalfEven q' := by
  rcases lt_or_eq_of_le (Rat.floor_monotone h) with hlt | heq
  · have := roundHalfEven_le_floor_add_one q
    have := floor_le_roundHalfEven q'
    omega
  · have hge := Rat.floor_le q
    have hlt := Rat.lt_floor_add_one q'
    push_cast at hlt
    rcases eq_or_lt_of_le h with rfl | hlt'
    · exact le_rfl
    · -- with one integer below both, one of the two is not half way to the next
      by_cases hhalf : (q'.floor : Rat) + 1 / 2 < q'
      · have hup : roundHalfEven q' = q'.floor + 1 :=
          roundHalfEven_eq (by push_cast; linarith) (by push_cast; linarith)
            (.inr ⟨by push_cast; linarith, by push_cast; linarith⟩)
        rw [hup, ← heq]
        exact roundHalfEven_le_floor_add_one q
      · have hdown : roundHalfEven q = q.floor := by
          rw [← heq] at hhalf
          exact roundHalfEven_eq (by linarith) (by linarith) (.inr ⟨by linarith, by linarith⟩)
        rw [hdown, heq]
        exact floor_le_roundHalfEven q'

theorem roundHalfEven_le {n : Int} (h : q ≤ n) : roundHalfEven q ≤ n :=
  (roundHalfEven_mono h).trans_eq (roundHalfEven_intCast n)

/-! ## Rounding to magnitudes -/

/-- The nearest magnitude before it is cut off at infinity: the steps of all finer grids
and then those of its own. -/
theorem nearestMagnitude_eq (hq : 0 < q) :
    (nearestMagnitude q : Int) = min (infiniteMagnitude : Int)
      ((gridExponent q + 1074) * 2 ^ 52 + roundHalfEven (q / 2 ^ gridExponent q)) := by
  have hgrid := (gridExponent_spec hq).1
  have hround : 0 ≤ roundHalfEven (q / 2 ^ gridExponent q) :=
    le_roundHalfEven (by exact_mod_cast (div_pos hq (two_zpow_pos _)).le)
  unfold nearestMagnitude
  dsimp only
  push_cast
  rw [Int.toNat_of_nonneg (by omega), Int.toNat_of_nonneg hround]

/-- A rational takes less than `2 ^ 53` steps of its grid, and at least half as many unless
the grid is the finest. -/
theorem roundHalfEven_grid (hq : 0 < q) :
    roundHalfEven (q / 2 ^ gridExponent q) ≤ 2 ^ 53
      ∧ (gridExponent q ≠ -1074 → 2 ^ 52 ≤ roundHalfEven (q / 2 ^ gridExponent q)) := by
  obtain ⟨-, hlt, hge⟩ := gridExponent_spec hq
  constructor
  · refine roundHalfEven_le ?_
    rw [div_le_iff₀ (two_zpow_pos _)]
    refine hlt.le.trans_eq ?_
    rw [add_comm, zpow_add₀ (by norm_num)]
    norm_num
  · intro hne
    refine le_roundHalfEven ?_
    rw [le_div_iff₀ (two_zpow_pos _)]
    refine le_trans (le_of_eq ?_) (hge hne)
    rw [add_comm, zpow_add₀ (by norm_num)]
    norm_num

/-- Rounding keeps the order. -/
theorem nearestMagnitude_mono (hq : 0 < q) (h : q ≤ q') :
    nearestMagnitude q ≤ nearestMagnitude q' := by
  have hgrid := (gridExponent_spec hq).1
  have hmono := gridExponent_mono hq h
  have hle := (roundHalfEven_grid hq).1
  have hge := (roundHalfEven_grid (hq.trans_le h)).2
  have heq := nearestMagnitude_eq hq
  have heq' := nearestMagnitude_eq (hq.trans_le h)
  rcases eq_or_lt_of_le hmono with hsame | hfiner
  · have hround : roundHalfEven (q / 2 ^ gridExponent q)
        ≤ roundHalfEven (q' / 2 ^ gridExponent q') := by
      rw [← hsame]
      exact roundHalfEven_mono (div_le_div_of_nonneg_right h (two_zpow_pos _).le)
    omega
  · have := hge (by omega)
    omega

/-! ## Rounding intervals -/

/-- A rational lies in the rounding interval of a number: half way to the neighbours, whose
distance below a power of two is half as large. The ends belong to it if the significand is
even. -/
structure RoundsTo (x : Double) (q : Rat) : Prop where
  low : (x.significand : Rat) - 1 / 2 ≤ q / 2 ^ x.exponent
  high : q / 2 ^ x.exponent ≤ x.significand + 1 / 2
  ends : x.significand % 2 = 0
    ∨ (x.significand : Rat) - 1 / 2 < q / 2 ^ x.exponent
      ∧ q / 2 ^ x.exponent < x.significand + 1 / 2
  lowest : x.significand = 2 ^ 52 → -1074 < x.exponent →
    (x.significand : Rat) - 1 / 4 ≤ q / 2 ^ x.exponent

theorem two_zpow_add_52 (e : Int) : (2 : Rat) ^ (e + 52) = 2 ^ 52 * 2 ^ e := by
  rw [add_comm, zpow_add₀ (by norm_num)]
  norm_num

/-- What lies in the rounding interval and on the grid of a number is rounded to it. -/
theorem nearestMagnitude_on_grid (hx : x.isFinite = true) (hq : 0 < q) (h : RoundsTo x q)
    (hgrid : x.exponent ≠ -1074 → 2 ^ (x.exponent + 52) ≤ q) :
    nearestMagnitude q = x.magnitude := by
  have hfinite : x.magnitude < infiniteMagnitude := of_decide_eq_true hx
  have hmagnitude := x.magnitude_eq
  have hlt : (x.significand : Rat) + 1 ≤ 2 ^ 53 := by exact_mod_cast x.significand_lt
  have hbelow : q / 2 ^ x.exponent < 2 ^ 53 := by linarith [h.high]
  have hsame : gridExponent q = x.exponent := by
    refine gridExponent_eq hq x.exponent_ge ?_ hgrid
    rw [div_lt_iff₀ (two_zpow_pos _)] at hbelow
    refine hbelow.trans_eq ?_
    rw [add_comm, zpow_add₀ (by norm_num)]
    norm_num
  have hround : roundHalfEven (q / 2 ^ x.exponent) = x.significand := by
    refine roundHalfEven_eq (by exact_mod_cast h.low) (by exact_mod_cast h.high) ?_
    rcases h.ends with heven | hopen
    · exact .inl (by omega)
    · exact .inr (by exact_mod_cast hopen)
  have heq := nearestMagnitude_eq hq
  rw [hsame, hround] at heq
  omega

/-- Only the first number of a grid has numbers below the grid that are rounded to it. -/
theorem significand_below_grid (h : RoundsTo x q) (hne : x.exponent ≠ -1074)
    (hlt : q < 2 ^ (x.exponent + 52)) : x.significand = 2 ^ 52 := by
  have hunder : q / 2 ^ x.exponent < 2 ^ 52 := by
    rw [div_lt_iff₀ (two_zpow_pos _), ← two_zpow_add_52]
    exact hlt
  have hge := significand_ge hne
  have hle : (x.significand : Rat) < (2 ^ 52 + 1 : Nat) := by
    push_cast
    linarith [h.low]
  have : x.significand < 2 ^ 52 + 1 := by exact_mod_cast hle
  omega

/-- What lies in the rounding interval of a number but below its grid is rounded, on the finer
grid, to the power of two where the grid starts. -/
theorem nearestMagnitude_below_grid (hx : x.isFinite = true) (hq : 0 < q) (h : RoundsTo x q)
    (hne : x.exponent ≠ -1074) (hlt : q < 2 ^ (x.exponent + 52)) :
    nearestMagnitude q = x.magnitude := by
  have hfinite : x.magnitude < infiniteMagnitude := of_decide_eq_true hx
  have hmagnitude := x.magnitude_eq
  have hexponent := x.exponent_ge
  have hstep := two_zpow_pos x.exponent
  have hfirst := significand_below_grid h hne hlt
  have hlow := h.lowest hfirst (by omega)
  rw [hfirst] at hlow
  push_cast at hlow
  have hunder : q / 2 ^ x.exponent < 2 ^ 52 := by
    rw [div_lt_iff₀ hstep, ← two_zpow_add_52]
    exact hlt
  have hfiner : gridExponent q = x.exponent - 1 := by
    refine gridExponent_eq hq (by omega) ?_ fun _ => ?_
    · exact hlt.trans_eq (by congr 1; omega)
    · have hge : (2 : Rat) ^ 51 ≤ q / 2 ^ x.exponent := by linarith
      rw [le_div_iff₀ hstep] at hge
      refine le_trans (le_of_eq ?_) hge
      rw [show x.exponent - 1 + 52 = 51 + x.exponent by omega, zpow_add₀ (by norm_num)]
      norm_num
  have hround : roundHalfEven (q / 2 ^ (x.exponent - 1)) = 2 ^ 53 := by
    have hhalf : q / 2 ^ (x.exponent - 1) = 2 * (q / 2 ^ x.exponent) := by
      rw [zpow_sub₀ (by norm_num), zpow_one]
      field_simp
    rw [hhalf]
    exact roundHalfEven_eq (by push_cast; linarith) (by push_cast; linarith) (.inl (by decide))
  have heq := nearestMagnitude_eq hq
  rw [hfiner, hround] at heq
  omega

/-- The rationals in the rounding interval of a number are rounded to it. -/
theorem nearestMagnitude_of_interval (hx : x.isFinite = true) (hq : 0 < q) (h : RoundsTo x q) :
    nearestMagnitude q = x.magnitude := by
  by_cases hgrid : x.exponent ≠ -1074 → 2 ^ (x.exponent + 52) ≤ q
  · exact nearestMagnitude_on_grid hx hq h hgrid
  · obtain ⟨hne, hbelow⟩ := Classical.not_imp.mp hgrid
    exact nearestMagnitude_below_grid hx hq h hne (not_le.mp hbelow)

theorem ofMagnitude_magnitude (x : Double) : ofMagnitude x.isNegative x.magnitude = x := by
  have hlt := UInt64.toNat_lt x.bits
  have hbits : x.magnitude + (if x.isNegative then 0x8000_0000_0000_0000 else 0) = x.bits.toNat := by
    simp only [magnitude, isNegative, decide_eq_true_eq]
    split <;> omega
  unfold ofMagnitude
  rw [hbits, UInt64.ofNat_toNat]

/-- A rational in the rounding interval of a number is rounded to it, with its sign. -/
theorem ofRat_of_roundsTo (hx : x.isFinite = true) (hq : 0 < q) (h : RoundsTo x q) :
    ofRat x.isNegative (if x.isNegative then -q else q) = x := by
  have hnearest := nearestMagnitude_of_interval hx hq h
  have hback := ofMagnitude_magnitude x
  unfold ofRat
  cases hsign : x.isNegative with
  | false =>
      rw [hsign] at hback
      simp only [Bool.false_eq_true, if_false]
      rw [if_neg hq.ne', if_neg hq.not_gt, hnearest, hback]
  | true =>
      rw [hsign] at hback
      simp only [if_true]
      rw [if_neg (neg_ne_zero.mpr hq.ne'), if_pos (neg_lt_zero.mpr hq), neg_neg, hnearest, hback]

theorem roundsTo_size (x : Double) : RoundsTo x x.size := by
  have hsteps : x.size / 2 ^ x.exponent = x.significand :=
    mul_div_cancel_right₀ _ (two_zpow_pos _).ne'
  constructor
  · rw [hsteps]
    linarith
  · rw [hsteps]
    linarith
  · rw [hsteps]
    exact .inr ⟨by linarith, by linarith⟩
  · intro _ _
    rw [hsteps]
    linarith

/-- A finite number is what its rational is rounded to. -/
theorem ofRat_toRat (hx : x.isFinite = true) : ofRat x.isNegative x.toRat = x := by
  rcases eq_or_lt_of_le x.size_nonneg with hzero | hpos
  · have hback := ofMagnitude_magnitude x
    rw [size_eq_zero_iff.mp hzero.symm] at hback
    have htoRat : x.toRat = 0 := by
      rw [toRat_eq, ← hzero]
      split <;> simp
    unfold ofRat
    rw [htoRat, if_pos rfl]
    exact hback
  · exact ofRat_of_roundsTo hx hpos (roundsTo_size x)

/-! ## Rounding keeps the order -/

theorem key_ofMagnitude {m : Nat} (h : m < 2 ^ 63) (negative : Bool) :
    (ofMagnitude negative m).key = if negative then -(m : Int) else m := by
  unfold key
  rw [magnitude_ofMagnitude h, isNegative_ofMagnitude h]

theorem nearestMagnitude_lt (q : Rat) : nearestMagnitude q < 2 ^ 63 := by
  have hle := nearestMagnitude_le q
  unfold infiniteMagnitude at hle
  omega

theorem key_ofRat_of_neg {zeroNegative : Bool} (h : q < 0) :
    (ofRat zeroNegative q).key = -nearestMagnitude (-q) := by
  unfold ofRat
  rw [if_neg h.ne, if_pos h, key_ofMagnitude (nearestMagnitude_lt _), if_pos rfl]

theorem key_ofRat_of_pos {zeroNegative : Bool} (h : 0 < q) :
    (ofRat zeroNegative q).key = nearestMagnitude q := by
  unfold ofRat
  rw [if_neg h.ne', if_neg h.not_gt, key_ofMagnitude (nearestMagnitude_lt _),
    if_neg Bool.false_ne_true]

theorem key_ofRat_zero {zeroNegative : Bool} : (ofRat zeroNegative 0).key = 0 := by
  cases zeroNegative <;> decide +kernel

theorem key_ofRat_mono {z z' : Bool} (h : q ≤ q') : (ofRat z q).key ≤ (ofRat z' q').key := by
  rcases lt_trichotomy q 0 with hneg | rfl | hpos
  · rw [key_ofRat_of_neg hneg]
    rcases lt_trichotomy q' 0 with hneg' | rfl | hpos'
    · have := nearestMagnitude_mono (neg_pos.mpr hneg') (neg_le_neg h)
      rw [key_ofRat_of_neg hneg']
      omega
    · rw [key_ofRat_zero]
      omega
    · rw [key_ofRat_of_pos hpos']
      omega
  · rw [key_ofRat_zero]
    rcases eq_or_lt_of_le h with rfl | hpos'
    · rw [key_ofRat_zero]
    · rw [key_ofRat_of_pos hpos']
      omega
  · rw [key_ofRat_of_pos hpos, key_ofRat_of_pos (hpos.trans_le h)]
    exact_mod_cast nearestMagnitude_mono hpos h

/-! ## Rounding error -/

theorem roundHalfEven_near (q : Rat) : |(roundHalfEven q : Rat) - q| ≤ 1 / 2 := by
  have hge := Rat.floor_le q
  have hlt := Rat.lt_floor_add_one q
  push_cast at hlt
  rw [abs_le]
  unfold roundHalfEven
  dsimp only
  split
  · constructor <;> linarith
  · split
    · push_cast
      constructor <;> linarith
    · split
      · constructor <;> linarith
      · push_cast
        constructor <;> linarith

/-- The size of a number whose magnitude goes through all finer grids and then takes some
steps on one. The last of these steps may already be the first of the next grid. -/
theorem size_of_magnitude {e : Int} {r : Nat} (he : -1074 ≤ e) (hr : r ≤ 2 ^ 53)
    (hge : e ≠ -1074 → 2 ^ 52 ≤ r) (h : (x.magnitude : Int) = (e + 1074) * 2 ^ 52 + r) :
    x.size = r * 2 ^ e := by
  have hmagnitude := x.magnitude_eq
  have hsignificand := x.significand_lt
  have hexponent := x.exponent_ge
  rcases lt_trichotomy x.exponent e with hlt | heq | hgt
  · have := hge (by omega)
    omega
  · have hsteps : x.significand = r := by
      rw [heq] at hmagnitude
      omega
    unfold size
    rw [hsteps, heq]
  · have hleading := significand_ge (x := x) (by omega)
    obtain ⟨hnext, hfirst, hlast⟩ :
        x.exponent = e + 1 ∧ x.significand = 2 ^ 52 ∧ r = 2 ^ 53 := by omega
    unfold size
    rw [hnext, hfirst, hlast, zpow_add₀ (by norm_num), zpow_one]
    push_cast
    ring

/-- What is rounded is as many steps of its grid as its own number of steps is rounded to. -/
theorem size_of_nearest (hx : x.isFinite = true) (hq : 0 < q)
    (h : x.magnitude = nearestMagnitude q) :
    x.size = (roundHalfEven (q / 2 ^ gridExponent q) : Rat) * 2 ^ gridExponent q := by
  have hfinite : x.magnitude < infiniteMagnitude := of_decide_eq_true hx
  obtain ⟨hle, hge⟩ := roundHalfEven_grid hq
  have hround : 0 ≤ roundHalfEven (q / 2 ^ gridExponent q) :=
    le_roundHalfEven (by exact_mod_cast (div_pos hq (two_zpow_pos _)).le)
  have heq := nearestMagnitude_eq hq
  obtain ⟨r, hr⟩ := Int.eq_ofNat_of_zero_le hround
  rw [hr] at hle hge heq ⊢
  exact size_of_magnitude (gridExponent_spec hq).1 (by omega)
    (fun hne => by have := hge hne; omega) (by omega)

/-- What is rounded moves by half a step of its grid at most. -/
theorem size_near (hx : x.isFinite = true) (hq : 0 < q) (h : x.magnitude = nearestMagnitude q) :
    |x.size - q| ≤ 2 ^ gridExponent q / 2 := by
  have hstep := two_zpow_pos (gridExponent q)
  have hnear := roundHalfEven_near (q / 2 ^ gridExponent q)
  calc |x.size - q|
      = |(roundHalfEven (q / 2 ^ gridExponent q) : Rat) - q / 2 ^ gridExponent q|
          * 2 ^ gridExponent q := by
        rw [← abs_of_pos hstep, ← abs_mul, sub_mul, abs_of_pos hstep,
          div_mul_cancel₀ _ hstep.ne', size_of_nearest hx hq h]
    _ ≤ 1 / 2 * 2 ^ gridExponent q := mul_le_mul_of_nonneg_right hnear hstep.le
    _ = 2 ^ gridExponent q / 2 := by ring

theorem toRat_ofRat_near {zeroNegative : Bool} (hq : q ≠ 0)
    (hx : (ofRat zeroNegative q).isFinite = true) :
    |(ofRat zeroNegative q).toRat - q| ≤ 2 ^ gridExponent |q| / 2 := by
  unfold ofRat at hx ⊢
  rw [if_neg hq] at hx ⊢
  rcases lt_or_gt_of_ne hq with hneg | hpos
  · rw [if_pos hneg] at hx ⊢
    have hnear := size_near hx (neg_pos.mpr hneg) (magnitude_ofMagnitude (nearestMagnitude_lt _) _)
    rw [toRat_eq, isNegative_ofMagnitude (nearestMagnitude_lt _), if_pos rfl, abs_of_neg hneg,
      ← neg_add', abs_neg, ← sub_neg_eq_add]
    exact hnear
  · rw [if_neg hpos.not_gt] at hx ⊢
    have hnear := size_near hx hpos (magnitude_ofMagnitude (nearestMagnitude_lt _) _)
    rw [toRat_eq, isNegative_ofMagnitude (nearestMagnitude_lt _), if_neg Bool.false_ne_true,
      abs_of_pos hpos]
    exact hnear

/-! ## Integers of 64 bits -/

theorem isFinite_ofInt {n : Int} (h : n.natAbs < 2 ^ 63) : (ofInt n).isFinite = true := by
  have hmagnitude {m : Nat} (hm : m < 2 ^ 63) (hpos : 0 < m) (negative : Bool) :
      (ofMagnitude negative (nearestMagnitude m)).isFinite = true := by
    have hlog : m.log2 < 63 := (Nat.log2_lt hpos.ne').mpr hm
    have heq := nearestMagnitude_eq (q := m) (by exact_mod_cast hpos)
    have hle := (roundHalfEven_grid (q := m) (by exact_mod_cast hpos)).1
    rw [gridExponent_natCast hpos] at heq hle
    unfold isFinite
    rw [magnitude_ofMagnitude (nearestMagnitude_lt _), decide_eq_true_eq]
    unfold infiniteMagnitude at heq ⊢
    omega
  unfold ofInt ofRat
  rcases lt_trichotomy n 0 with hneg | rfl | hpos
  · have hcast : -(n : Rat) = (n.natAbs : Rat) := by
      rw [← Int.cast_neg, show -n = (n.natAbs : Int) by omega, Int.cast_natCast]
    rw [if_neg (by exact_mod_cast hneg.ne), if_pos (by exact_mod_cast hneg), hcast]
    exact hmagnitude h (by omega) true
  · decide
  · have hcast : (n : Rat) = (n.natAbs : Rat) := by
      rw [show n = (n.natAbs : Int) by omega, Int.cast_natCast, Int.natAbs_natCast]
    rw [if_neg (by exact_mod_cast hpos.ne'), if_neg (by exact_mod_cast hpos.not_gt), hcast]
    exact hmagnitude h (by omega) false

/-- An integer of 63 digits is rounded to an integer that is at most 512 away. -/
theorem isInt_ofInt_near {n : Int} (h : n.natAbs < 2 ^ 63) :
    ∃ m : Int, IsInt (ofInt n) m ∧ n - 512 ≤ m ∧ m ≤ n + 512 := by
  have hfinite := isFinite_ofInt h
  obtain ⟨-, m, hm⟩ := isIntegral_iff.mp (isIntegral_ofInt hfinite)
  refine ⟨m, ⟨hfinite, hm⟩, ?_⟩
  rcases eq_or_ne n 0 with rfl | hne
  · rw [(isInt_ofInt (by decide)).toRat] at hm
    have : (0 : Int) = m := by exact_mod_cast hm
    omega
  · have hgrid : gridExponent |(n : Rat)| ≤ 10 := by
      have hlog : n.natAbs.log2 < 63 := (Nat.log2_lt (by omega)).mpr h
      rw [show |(n : Rat)| = (n.natAbs : Rat) by rw [← Int.cast_abs, Int.abs_eq_natAbs]; rfl,
        gridExponent_natCast (by omega)]
      omega
    have hnear : |(ofInt n).toRat - n| ≤ 2 ^ gridExponent |(n : Rat)| / 2 :=
      toRat_ofRat_near (by exact_mod_cast hne) hfinite
    have hstep := two_zpow_le hgrid
    rw [hm] at hnear
    obtain ⟨hge, hle⟩ := abs_le.mp (hnear.trans (div_le_div_of_nonneg_right hstep (by norm_num)))
    norm_num at hge hle
    constructor
    · exact_mod_cast (by linarith : (n : Rat) - 512 ≤ m)
    · exact_mod_cast (by linarith : (m : Rat) ≤ n + 512)

end Specimen.Double
