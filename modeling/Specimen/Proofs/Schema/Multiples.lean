import Specimen.Proofs.Double.Quotient
import Specimen.Schema.Bounds

/-!
# Multiples in a range

Where factors of a step are drawn, the range of the factors is read off two quotients of
floating-point numbers. With integers as bounds and as the step these quotients are rounded,
but the integers next to them are exact (`factorRange_eq`), so the factors are just those
whose multiples lie in the range (`between_factors_iff`). A range that is made from integral
bounds has ends of at most 53 digits, whichever of its sides are open
(`integerRange_small`), which is what the quotients need.
-/

namespace Specimen

open Double

/-! ## Integral bounds -/

/-- A number denotes an integer, in either of its forms. -/
def Number.IsInt : Number → Int → Prop
  | int k, n => k = n
  | float x, n => Double.IsInt x n

/-- The numbers that bound a node are integers of at most 52 digits. -/
def Node.HasIntegralBounds (node : Node) : Prop :=
  ∀ (side : Side) (b : Number), node.value? side.plainKeyword = some (.number b)
      ∨ node.value? side.strictKeyword = some (.number b) →
    ∃ n : Int, b.IsInt n ∧ n.natAbs ≤ 2 ^ 52

theorem Number.IsInt.toDouble {b : Number} {n : Int} (h : b.IsInt n) (hn : n.natAbs ≤ 2 ^ 53) :
    Double.IsInt b.toDouble n := by
  cases b with
  | int k =>
      obtain rfl : k = n := h
      exact isInt_ofInt hn
  | float x => exact h

namespace Node

variable {node : Node}

theorem double?_eq_some {keyword : String} {x : Double} (h : node.double? keyword = some x) :
    ∃ b, node.value? keyword = some (.number b) ∧ b.toDouble = x := by
  unfold double? at h
  obtain ⟨b, hb, hx⟩ := Option.map_eq_some_iff.mp h
  obtain ⟨value, hvalue, hnumber⟩ := Option.bind_eq_some_iff.mp hb
  cases value with
  | number b' =>
      obtain rfl := Option.some.inj hnumber
      exact ⟨b', hvalue, hx⟩
  | _ => cases hnumber

/-- The bound of a side is integral if all numbers that bound the side are. -/
theorem HasIntegralBounds.bound? (h : node.HasIntegralBounds) {side : Side} {b : Bound}
    (hb : node.bound? side = some b) : ∃ n : Int, IsInt b.value n ∧ n.natAbs ≤ 2 ^ 52 := by
  have hread {keyword : String} {x : Double}
      (hkeyword : keyword = side.plainKeyword ∨ keyword = side.strictKeyword)
      (hx : node.double? keyword = some x) : ∃ n : Int, IsInt x n ∧ n.natAbs ≤ 2 ^ 52 := by
    obtain ⟨number, hvalue, rfl⟩ := double?_eq_some hx
    obtain ⟨n, hn, hsmall⟩ : ∃ n : Int, number.IsInt n ∧ n.natAbs ≤ 2 ^ 52 := by
      rcases hkeyword with rfl | rfl
      · exact h side number (.inl hvalue)
      · exact h side number (.inr hvalue)
    exact ⟨n, hn.toDouble (by omega), hsmall⟩
  unfold Node.bound? at hb
  cases hplain : node.double? side.plainKeyword with
  | none =>
      cases hstrict : node.double? side.strictKeyword with
      | none => simp [hplain, hstrict] at hb
      | some y =>
          simp only [hplain, hstrict, Option.map_none, Option.map_some, Option.some.injEq] at hb
          exact hb ▸ hread (.inr rfl) hstrict
  | some x =>
      cases hstrict : node.double? side.strictKeyword with
      | none =>
          simp only [hplain, hstrict, Option.map_none, Option.map_some, Option.some.injEq] at hb
          exact hb ▸ hread (.inl rfl) hplain
      | some y =>
          simp only [hplain, hstrict, Option.map_some, Option.some.injEq] at hb
          rw [← hb]
          unfold Bound.tighter
          split
          · exact hread (.inl rfl) hplain
          · exact hread (.inr rfl) hstrict

theorem leastInteger_near {b : Bound} {n : Int} (h : IsInt b.value n) (hn : n.natAbs ≤ 2 ^ 52) :
    leastInteger b = n ∨ leastInteger b = n + 1 := by
  unfold leastInteger
  split
  · rw [(h.floor (by omega)).toInt64 (by omega)]
    unfold saturate int64Min int64Max
    omega
  · rw [(h.ceil (by omega)).toInt64 (by omega)]
    omega

theorem greatestInteger_near {b : Bound} {n : Int} (h : IsInt b.value n)
    (hn : n.natAbs ≤ 2 ^ 52) : greatestInteger b = n ∨ greatestInteger b = n - 1 := by
  unfold greatestInteger
  split
  · rw [(h.ceil (by omega)).toInt64 (by omega)]
    unfold saturate int64Min int64Max
    omega
  · rw [(h.floor (by omega)).toInt64 (by omega)]
    omega

/-- The ends of a range of integers between integral bounds have at most 53 digits. -/
theorem integerRange_small (h : node.HasIntegralBounds) {lo hi : Int}
    (hrange : node.integerRange = .ok (lo, hi)) :
    lo ≤ hi ∧ lo.natAbs < 2 ^ 53 ∧ hi.natAbs < 2 ^ 53 := by
  have hlower : ∀ l, (node.bound? .lower).map leastInteger = some l → l.natAbs ≤ 2 ^ 52 + 1 := by
    intro l hl
    obtain ⟨b, hb, rfl⟩ := Option.map_eq_some_iff.mp hl
    obtain ⟨n, hn, hsmall⟩ := h.bound? hb
    have := leastInteger_near hn hsmall
    omega
  have hupper : ∀ u, (node.bound? .upper).map greatestInteger = some u → u.natAbs ≤ 2 ^ 52 + 1 := by
    intro u hu
    obtain ⟨b, hb, rfl⟩ := Option.map_eq_some_iff.mp hu
    obtain ⟨n, hn, hsmall⟩ := h.bound? hb
    have := greatestInteger_near hn hsmall
    omega
  unfold integerRange at hrange
  dsimp only at hrange
  generalize (node.bound? .lower).map leastInteger = lower? at hlower hrange
  generalize (node.bound? .upper).map greatestInteger = upper? at hupper hrange
  split at hrange
  · cases hrange
  · next hle =>
      obtain ⟨hlo, hhi⟩ := Prod.mk.inj (Except.ok.inj hrange)
      rw [hlo, hhi] at hle
      refine ⟨Int.not_lt.mp hle, ?_⟩
      unfold closeIntegers saturate openBound int64Min int64Max at hlo hhi
      rcases lower? with _ | l <;> rcases upper? with _ | u
      · simp only at hlo hhi
        omega
      · have hu := hupper u rfl
        simp only at hlo hhi
        split at hlo <;> split at hhi <;> simp at hlo hhi <;> omega
      · have hl := hlower l rfl
        simp only at hlo hhi
        split at hlo <;> split at hhi <;> simp at hlo hhi <;> omega
      · have hl := hlower l rfl
        have hu := hupper u rfl
        simp only at hlo hhi
        omega

/-- A positive step is the step of its node. -/
theorem step_isInt {b : Number} {m : Int} (hvalue : node.value? "multipleOf" = some (.number b))
    (hb : b.IsInt m) (hpos : 0 < m) (hle : m ≤ 2 ^ 53) : IsInt node.step m := by
  have hm := hb.toDouble (by omega)
  have hread : node.double? "multipleOf" = some b.toDouble := by
    unfold double?
    rw [hvalue]
    rfl
  have hzero : IsInt (0 : Double) 0 := isInt_ofInt (by decide)
  have hlt : (0 : Double) < b.toDouble := by
    rw [lt_iff_toRat_lt hzero.isFinite hm.isFinite, hzero.toRat, hm.toRat]
    exact_mod_cast hpos
  unfold step
  rw [hread]
  simp only [hlt, hm.isFinite, and_self, if_true]
  exact hm

end Node

/-! ## Factors -/

/-- The factors from `-(-lo / m)` to `hi / m` are those whose multiples lie in the range. -/
theorem between_factors_iff {lo hi m k : Int} (hm : 0 < m) :
    -(-lo / m) ≤ k ∧ k ≤ hi / m ↔ lo ≤ k * m ∧ k * m ≤ hi := by
  have hlow : -(-lo / m) ≤ k ↔ lo ≤ k * m := by
    rw [neg_le, Int.le_ediv_iff_mul_le hm, Int.neg_mul, Int.neg_le_neg_iff]
  rw [hlow, Int.le_ediv_iff_mul_le hm]

/-- The range of factors is exact where the range and the step are integers. -/
theorem factorRange_eq {lo hi m : Int} {step : Double} (hlo : lo.natAbs < 2 ^ 53)
    (hhi : hi.natAbs < 2 ^ 53) (hstep : IsInt step m) (hm : 0 < m) (hle : m ≤ 2 ^ 53) :
    factorRange (.ofInt lo) (.ofInt hi) step =
      if hi / m < -(-lo / m) then .error (.malformed (.noMultiple step (.ofInt lo) (.ofInt hi)))
      else .ok (-(-lo / m), hi / m) := by
  have hleast := (isInt_ofInt hlo.le).ceil_div hstep hm hle hlo
  have hgreatest := (isInt_ofInt hhi.le).floor_div hstep hm hle hhi
  have hlo' := Int.natAbs_ediv_le_natAbs (-lo) m
  have hhi' := Int.natAbs_ediv_le_natAbs hi m
  have hlt : (Double.ofInt hi / step).floor < (Double.ofInt lo / step).ceil
      ↔ hi / m < -(-lo / m) := by
    rw [lt_iff_toRat_lt hgreatest.isFinite hleast.isFinite, hgreatest.toRat, hleast.toRat]
    exact Int.cast_lt
  unfold factorRange
  simp only [hlt, hleast.toInt64 (by omega), hgreatest.toInt64 (by omega)]

end Specimen
