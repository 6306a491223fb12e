import Specimen.Proofs.Double.Arithmetic
import Specimen.Proofs.Json.Valid
import Specimen.Schema.Node
import Specimen.Validation.Values

/-!
# Counts

A count may be written as an integer or as a floating-point number without a fraction, and
what is no count reads as absent. The greatest count is `2 ^ 64 - 1`, which is no
floating-point number: the limit that a number is compared with is rounded up to `2 ^ 64`.
So the reading is exact for every number but this one (`count?_exact`), which passes for a
count and is moved to the greatest (`count?_limit`).
-/

namespace Specimen

open Double

/-! ## Integral numbers as counts -/

/-- The greatest count, rounded. -/
theorem isInt_countLimit : IsInt (ofInt uint64Max) (2 ^ 64) where
  isFinite := by decide +kernel
  toRat := by decide +kernel

theorem Double.IsInt.le_iff {x y : Double} {m n : Int} (hx : IsInt x m) (hy : IsInt y n) :
    x ≤ y ↔ m ≤ n := by
  rw [le_iff_toRat_le hx.isFinite hy.isFinite, hx.toRat, hy.toRat]
  exact Int.cast_le

namespace Number

variable {v : Number}

/-- What a number without a fraction is read as: nothing below zero and above `2 ^ 64`,
and the greatest count for `2 ^ 64`. -/
theorem count?_of_integer {m : Int} (hv : v.IsValid) (hm : v.toRat = m) :
    v.count? = if 0 ≤ m ∧ m ≤ 2 ^ 64 then some (min (2 ^ 64 - 1) m).toNat else none := by
  cases hv with
  | @int n hmin hmax =>
      have hn : (n : Rat) = m := hm
      obtain rfl : n = m := by exact_mod_cast hn
      show (if 0 ≤ n ∧ n ≤ uint64Max then some n.toNat else none) = _
      unfold uint64Max at hmax ⊢
      split
      · rw [if_pos (by omega)]
        congr 2
        omega
      · rw [if_neg (by omega)]
  | @float x hfinite =>
      have hx : Double.IsInt x m := ⟨hfinite, hm⟩
      have hzero : 0 ≤ x ↔ 0 ≤ m := (isInt_ofInt (by decide)).le_iff hx
      have hlimit : x ≤ ofInt uint64Max ↔ m ≤ 2 ^ 64 := hx.le_iff isInt_countLimit
      unfold count?
      simp only [hx.isIntegral, hzero, hlimit, hx.toIntClamped, true_and]
      split
      · congr 2
        unfold uint64Max
        omega
      · rfl

theorem count?_of_fraction (hv : v.IsValid) (h : ∀ m : Int, v.toRat ≠ m) : v.count? = none := by
  cases hv with
  | @int n hmin hmax => exact absurd rfl (h n)
  | @float x hfinite =>
      refine if_neg fun hcount => ?_
      obtain ⟨-, m, hm⟩ := isIntegral_iff.mp hcount.1
      exact h m hm

/-- Apart from `2 ^ 64`, a number is read as a count just if it is one. -/
theorem count?_eq_some_iff (hv : v.IsValid) (hlimit : v.toRat ≠ 2 ^ 64) (n : Nat) :
    v.count? = some n ↔ v.toRat = n ∧ n < 2 ^ 64 := by
  by_cases hinteger : ∃ m : Int, v.toRat = m
  · obtain ⟨m, hm⟩ := hinteger
    have hne : m ≠ 2 ^ 64 := by
      rintro rfl
      exact hlimit (by rw [hm]; norm_num)
    have hcast : v.toRat = n ↔ m = n := by
      rw [hm]
      exact_mod_cast Iff.rfl
    rw [count?_of_integer hv hm, hcast]
    split
    · rw [Option.some_inj]
      omega
    · simp only [reduceCtorEq, false_iff]
      omega
  · rw [count?_of_fraction hv fun m hm => hinteger ⟨m, hm⟩]
    simp only [reduceCtorEq, false_iff]
    rintro ⟨hn, -⟩
    exact hinteger ⟨n, hn⟩

/-- The number next above the greatest count is read as the greatest count. -/
theorem count?_limit (hv : v.IsValid) (hlimit : v.toRat = 2 ^ 64) :
    v.count? = some (2 ^ 64 - 1) := by
  rw [count?_of_integer (m := 2 ^ 64) hv (by rw [hlimit]; norm_num)]
  rfl

end Number

/-! ## Counts of a node -/

namespace Node

variable {node : Node} {keyword : String} {v : Number}

theorem count?_of_value? (h : node.value? keyword = some (.number v)) :
    node.count? keyword = v.count? := by
  unfold count?
  rw [h]
  rfl

/-- A number other than `2 ^ 64` is read as the count that it is, and as absent if it is
none. -/
theorem count?_exact (hvalue : node.value? keyword = some (.number v)) (hv : v.IsValid) :
    (v.toRat ≠ 2 ^ 64 → ∀ n : Nat, node.count? keyword = some n ↔ v.toRat = n ∧ n < 2 ^ 64)
      ∧ (v.toRat = 2 ^ 64 → node.count? keyword = some (2 ^ 64 - 1)) := by
  rw [count?_of_value? hvalue]
  exact ⟨Number.count?_eq_some_iff hv, Number.count?_limit hv⟩

/-- A schema that states one count. -/
def statingCount (v : Number) : Node := ⟨[("maxItems", .number v)]⟩

/-- The number next below `2 ^ 64`. -/
def belowLimit : Double := ⟨0x43EF_FFFF_FFFF_FFFF⟩

theorem count?_exact_belowLimit :
    (statingCount (.float belowLimit)).value? "maxItems" = some (.number (.float belowLimit))
      ∧ (Number.float belowLimit).IsValid
      ∧ (Number.float belowLimit).toRat ≠ 2 ^ 64
      ∧ (statingCount (.float belowLimit)).count? "maxItems" = some (2 ^ 64 - 2 ^ 11) := by
  have hvalue : (statingCount (.float belowLimit)).value? "maxItems"
      = some (.number (.float belowLimit)) := rfl
  have hvalid : (Number.float belowLimit).IsValid := .float (by decide)
  have hrat : (Number.float belowLimit).toRat = 2 ^ 64 - 2 ^ 11 := by decide +kernel
  have hne : (Number.float belowLimit).toRat ≠ 2 ^ 64 := by
    rw [hrat]
    norm_num
  refine ⟨hvalue, hvalid, hne, ((count?_exact hvalue hvalid).1 hne _).mpr ⟨?_, by norm_num⟩⟩
  rw [hrat]
  norm_num

/-- A number that is too large for a count is read as one, and as a smaller one. -/
theorem count?_tooLarge :
    (Number.float (ofInt (2 ^ 64))).IsValid
      ∧ (Number.float (ofInt (2 ^ 64))).toRat = 2 ^ 64
      ∧ (statingCount (.float (ofInt (2 ^ 64)))).count? "maxItems" = some (2 ^ 64 - 1) :=
  ⟨.float (by decide +kernel), by decide +kernel, by decide +kernel⟩

end Node

end Specimen
