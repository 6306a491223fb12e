import Mathlib.Algebra.Order.Field.Rat
import Mathlib.Data.List.Induction
import Mathlib.Data.Rat.Floor
import Mathlib.Tactic.IntervalCases
import Mathlib.Tactic.Linarith
import Specimen.Decimal.Layout
import Specimen.Decimal.Reading
import Specimen.Digits

/-!
# Digits and positions

The digits of a natural number denote it again, and there are as many of them as
`digitCount` counts. For rationals the same is said by the position of the decimal point:
it is the only `p` with `10 ^ (p - 1) ≤ q < 10 ^ p` (`pointPosition_spec`).
-/

namespace Specimen

namespace Digits

theorem decimal_eq (ds : List Char) : decimal ds = Nat.ofDigitChars 10 ds 0 := rfl

theorem decimal_append (as bs : List Char) :
    decimal (as ++ bs) = 10 ^ bs.length * decimal as + decimal bs := by
  rw [decimal_eq, Nat.ofDigitChars_append, Nat.ofDigitChars_eq_ofDigitChars_zero]
  rfl

theorem decimal_zeros (count : Nat) : decimal (List.replicate count '0') = 0 :=
  Nat.ofDigitChars_replicate_zero

end Digits

open Digits (decimal)

namespace Decimal

/-! ## Digits of natural numbers -/

theorem digits_eq (n : Nat) : digits n = Nat.toDigits 10 n := Nat.toList_repr

@[simp] theorem decimal_digits (n : Nat) : decimal (digits n) = n := by
  rw [digits_eq]
  exact Nat.ofDigitChars_ten_toDigits

theorem isDigit_of_mem_digits {n : Nat} {c : Char} (h : c ∈ digits n) : c.isDigit = true := by
  rw [digits_eq] at h
  exact Nat.isDigit_of_mem_toDigits (by decide) (by decide) h

theorem digits_ne_nil (n : Nat) : digits n ≠ [] := digits_eq n ▸ Nat.toDigits_ne_nil

theorem digits_of_lt {n : Nat} (h : n < 10) : digits n = [n.digitChar] := by
  rw [digits_eq, Nat.toDigits_of_lt_base h]

theorem digits_of_ge {n : Nat} (h : 10 ≤ n) :
    digits n = digits (n / 10) ++ [(n % 10).digitChar] := by
  rw [digits_eq, digits_eq, Nat.toDigits_of_base_le (by decide) h]

theorem length_digits (n : Nat) : (digits n).length = digitCount n := by
  induction n using Nat.strongRecOn with
  | _ n ih =>
      rw [digitCount]
      split
      · next h => rw [digits_of_lt h, List.length_singleton]
      · next h =>
          rw [digits_of_ge (not_lt.mp h), List.length_append, ih _ (by omega),
            List.length_singleton]

/-- Only zero has a zero in front. -/
theorem head?_digits {n : Nat} (h : 0 < n) : (digits n).head? ≠ some '0' := by
  induction n using Nat.strongRecOn with
  | _ n ih =>
      rcases Nat.lt_or_ge n 10 with hlt | hge
      · rw [digits_of_lt hlt]
        clear ih
        interval_cases n <;> decide
      · rw [digits_of_ge hge, List.head?_append_of_ne_nil _ (digits_ne_nil _)]
        exact ih _ (by omega) (by omega)

theorem isDigit_bounds {c : Char} (h : c.isDigit = true) : 48 ≤ c.toNat ∧ c.toNat ≤ 57 := by
  simp only [Char.isDigit, Bool.and_eq_true, decide_eq_true_eq] at h
  exact h

theorem digitChar_sub_zero {c : Char} (h : c.isDigit = true) :
    (c.toNat - '0'.toNat).digitChar = c := by
  obtain ⟨hlow, hhigh⟩ := isDigit_bounds h
  have hchar : Char.ofNat c.toNat = c := Char.ofNat_toNat c
  generalize c.toNat = n at hlow hhigh hchar ⊢
  rw [← hchar]
  interval_cases n <;> rfl

end Decimal

/-- Decimal digits with no zero in front of others. -/
structure Digits.IsNumeral (ds : List Char) : Prop where
  ne_nil : ds ≠ []
  isDigit : ∀ c ∈ ds, c.isDigit = true
  front : ds.length = 1 ∨ ds.head? ≠ some '0'

namespace Decimal

theorem isNumeral_digits (n : Nat) : Digits.IsNumeral (digits n) where
  ne_nil := digits_ne_nil n
  isDigit _ := isDigit_of_mem_digits
  front := by
    rcases Nat.eq_zero_or_pos n with rfl | hpos
    · exact .inl rfl
    · exact .inr (head?_digits hpos)

/-- Such digits are those of the number they denote. -/
theorem digits_decimal {ds : List Char} (h : Digits.IsNumeral ds) : digits (decimal ds) = ds := by
  induction ds using List.reverseRecOn with
  | nil => exact absurd rfl h.ne_nil
  | append_singleton front c ih =>
      have hc : c.isDigit = true := h.isDigit c (by simp)
      have hvalue : decimal (front ++ [c]) = 10 * decimal front + (c.toNat - '0'.toNat) := by
        rw [Digits.decimal_append]
        simp [decimal]
      have hlast : c.toNat - '0'.toNat < 10 :=
        Nat.lt_of_le_of_lt (Nat.sub_le_sub_right (isDigit_bounds hc).2 _) (by decide)
      rw [hvalue]
      by_cases hnil : front = []
      · subst hnil
        rw [show decimal [] = 0 from rfl, Nat.mul_zero, Nat.zero_add, digits_of_lt hlast,
          digitChar_sub_zero hc]
        rfl
      · have hhead : front.head? ≠ some '0' := by
          rcases h.front with hlength | hhead
          · simp [hnil] at hlength
          · rwa [List.head?_append_of_ne_nil _ hnil] at hhead
        have hrest : digits (decimal front) = front :=
          ih ⟨hnil, fun d hd => h.isDigit d (by simp [hd]), .inr hhead⟩
        have hpos : 0 < decimal front := by
          refine Nat.pos_of_ne_zero fun hzero => hhead ?_
          rw [← hrest, hzero]
          rfl
        rw [digits_of_ge (by omega), show (10 * decimal front + (c.toNat - '0'.toNat)) / 10
          = decimal front by omega, hrest, show (10 * decimal front + (c.toNat - '0'.toNat)) % 10
          = c.toNat - '0'.toNat by omega, digitChar_sub_zero hc]

/-! ## Counts of digits -/

theorem digitCount_pos (n : Nat) : 0 < digitCount n := by
  rw [← length_digits]
  exact List.length_pos_iff.mpr (digits_ne_nil n)

theorem digitCount_le_iff {n k : Nat} (hk : 0 < k) : digitCount n ≤ k ↔ n < 10 ^ k := by
  rw [← length_digits, digits_eq]
  exact Nat.length_toDigits_le_iff (by decide) hk

theorem lt_pow_digitCount (n : Nat) : n < 10 ^ digitCount n :=
  (digitCount_le_iff (digitCount_pos n)).mp le_rfl

theorem pow_le_of_pos {n : Nat} (h : 0 < n) : 10 ^ (digitCount n - 1) ≤ n := by
  have hpos := digitCount_pos n
  rcases Nat.eq_zero_or_pos (digitCount n - 1) with hone | hmore
  · rw [hone]
    exact h
  · by_contra hlt
    have := (digitCount_le_iff hmore).mpr (not_le.mp hlt)
    omega

/-! ## Positions of the decimal point -/

variable {q : Rat}

theorem ten_zpow_pos (e : Int) : (0 : Rat) < 10 ^ e := zpow_pos (by norm_num) e

theorem ten_zpow_le {e e' : Int} (h : e ≤ e') : (10 : Rat) ^ e ≤ 10 ^ e' :=
  zpow_le_zpow_right₀ (by norm_num) h

/-- The digits of a natural number bound it by powers of ten. -/
theorem zpow_bounds {n : Nat} (h : 0 < n) :
    (10 : Rat) ^ ((digitCount n : Int) - 1) ≤ n ∧ (n : Rat) + 1 ≤ 10 ^ (digitCount n : Int) := by
  have hpos := digitCount_pos n
  constructor
  · rw [show (digitCount n : Int) - 1 = ((digitCount n - 1 : Nat) : Int) by omega, zpow_natCast]
    exact_mod_cast pow_le_of_pos h
  · rw [zpow_natCast]
    exact_mod_cast lt_pow_digitCount n

theorem pointPosition_spec (hq : 0 < q) :
    (10 : Rat) ^ (pointPosition q - 1) ≤ q ∧ q < 10 ^ pointPosition q := by
  unfold pointPosition
  split
  · next hge =>
      have hfloor : 1 ≤ q.floor := Rat.le_floor_iff.mpr (by exact_mod_cast hge)
      obtain ⟨hlow, hhigh⟩ := zpow_bounds (n := q.floor.toNat) (by omega)
      have hcast : ((q.floor.toNat : Nat) : Rat) = q.floor := by
        exact_mod_cast Int.toNat_of_nonneg (by omega : 0 ≤ q.floor)
      rw [hcast] at hlow hhigh
      have hlt := Rat.lt_floor_add_one q
      push_cast at hlt
      exact ⟨hlow.trans (Rat.floor_le q), hlt.trans_le hhigh⟩
  · next hlt =>
      have hinv : 1 < q⁻¹ := (one_lt_inv₀ hq).mpr (not_le.mp hlt)
      have hceil : 1 < q⁻¹.ceil := Rat.lt_ceil_iff.mpr (by exact_mod_cast hinv)
      obtain ⟨hlow, hhigh⟩ := zpow_bounds (n := q⁻¹.ceil.toNat - 1) (by omega)
      have hcast : ((q⁻¹.ceil.toNat - 1 : Nat) : Rat) = q⁻¹.ceil - 1 := by
        have hint : ((q⁻¹.ceil.toNat - 1 : Nat) : Int) = q⁻¹.ceil - 1 := by omega
        exact_mod_cast congrArg (Int.cast (R := Rat)) hint
      rw [hcast] at hlow hhigh
      generalize (digitCount (q⁻¹.ceil.toNat - 1) : Int) = d at hlow hhigh ⊢
      have hbelow : (q⁻¹.ceil : Rat) - 1 < q⁻¹ := by
        have : q⁻¹.ceil - 1 < q⁻¹.ceil := by omega
        exact_mod_cast Rat.lt_ceil_iff.mp this
      have habove : q⁻¹ ≤ q⁻¹.ceil := Rat.le_ceil
      constructor
      · have hle : q⁻¹ ≤ 10 ^ d := by linarith
        rw [show 1 - d - 1 = -d by omega, zpow_neg]
        exact inv_le_of_inv_le₀ hq hle
      · have hgt : (10 : Rat) ^ (d - 1) < q⁻¹ := by linarith
        rw [show 1 - d = -(d - 1) by omega, zpow_neg]
        exact lt_inv_of_lt_inv₀ (ten_zpow_pos _) hgt

/-- The position of the decimal point of a decimal. -/
theorem decimal_bounds {c : Nat} (hc : 0 < c) (e : Int) :
    (10 : Rat) ^ (digitCount c + e - 1) ≤ c * 10 ^ e ∧ (c : Rat) * 10 ^ e < 10 ^ (digitCount c + e) := by
  obtain ⟨hlow, hhigh⟩ := zpow_bounds hc
  have hunit := ten_zpow_pos e
  constructor
  · rw [show (digitCount c : Int) + e - 1 = digitCount c - 1 + e by omega,
      zpow_add₀ (by norm_num)]
    exact mul_le_mul_of_nonneg_right hlow hunit.le
  · rw [zpow_add₀ (by norm_num)]
    exact mul_lt_mul_of_pos_right (by linarith) hunit

end Decimal

end Specimen
