import Specimen.Proofs.Double.Arithmetic
import Specimen.Proofs.Random.Uniform

/-!
# Numbers with a fraction stay in their ranges

A number with a fraction is drawn from a range by weighing its ends with a number from zero to
one. The weights and the sum are rounded, so the result may lie beside the range. It is a number
all the same (`weighed_isNaN`), and so it is moved into the range (`doubleBetween_between`).
-/

namespace Specimen.Draw

open Double

variable {σ ε : Type} {E : ε → Prop} {lo hi t : Double}

/-- The sum of two finite numbers with weights from zero to one. -/
theorem weighed_isNaN (hlo : lo.isFinite = true) (hhi : hi.isFinite = true)
    (ht : t.isFinite = true) (hge : 0 ≤ t.toRat) (hle : t.toRat ≤ 1) :
    (lo * (.ofInt 1 - t) + hi * t).isNaN = false := by
  have hone : IsInt (ofInt 1) 1 := isInt_ofInt (by decide)
  have hrest := toRat_sub hone.isFinite ht
  have hrest_finite : (.ofInt 1 - t).isFinite = true :=
    isFinite_sub hone.isFinite ht (by rw [abs_of_nonneg hge]; linarith)
  rw [hone.toRat, Int.cast_one] at hrest
  have hrest_ge : 0 ≤ (.ofInt 1 - t).toRat := by
    rw [hrest, ← rounded_zero]
    exact rounded_mono (by linarith)
  have hrest_le : (.ofInt 1 - t).toRat ≤ 1 := by
    have hle' := rounded_le (q := 1 - t.toRat) hone.isFinite
    rw [hone.toRat, Int.cast_one] at hle'
    rw [hrest]
    exact hle' (by linarith)
  rw [add_of_isFinite (isFinite_mul_unit hlo hrest_finite hrest_ge hrest_le)
    (isFinite_mul_unit hhi ht hge hle)]
  exact isNaN_ofRat _ _

variable [Source σ]

theorem unit_between : Ensures (unit : Draw σ ε Double)
    (fun t => t.isFinite = true ∧ 0 ≤ t.toRat ∧ t.toRat ≤ 1) E := by
  refine word64_ensures.bind fun w hw => ensures_pure ?_
  have hone : IsInt (ofInt 1) 1 := isInt_ofInt (by decide)
  have hge : (zero false).toRat ≤ (w / 0x800 : Nat) * (2 : Rat) ^ (-53 : Int) := by
    rw [show (zero false).toRat = 0 by decide +kernel]
    positivity
  have hle : (w / 0x800 : Nat) * (2 : Rat) ^ (-53 : Int) ≤ (ofInt 1).toRat := by
    have hsmall : ((w / 0x800 : Nat) : Rat) ≤ 2 ^ 53 := by
      exact_mod_cast (by rw [Nat.one_shiftLeft] at hw; omega : w / 0x800 ≤ 2 ^ 53)
    rw [hone.toRat, Int.cast_one, zpow_neg, ← div_eq_mul_inv, div_le_one (by norm_num)]
    exact hsmall
  refine ⟨isFinite_ofRat_of_between rfl hone.isFinite hge hle, ?_, ?_⟩
  · rw [toRat_ofRat, ← rounded_zero]
    exact rounded_mono (by positivity)
  · have := rounded_le hone.isFinite hle
    rwa [hone.toRat, Int.cast_one] at this

/-- A number that is drawn from a range whose ends are finite and in order is finite and lies
in the range. -/
theorem doubleBetween_between (hlo : lo.isFinite = true) (hhi : hi.isFinite = true)
    (hle : lo.toRat ≤ hi.toRat) : Ensures (doubleBetween lo hi : Draw σ ε Double)
      (fun x => x.isFinite = true ∧ lo.toRat ≤ x.toRat ∧ x.toRat ≤ hi.toRat) E := by
  unfold doubleBetween
  rw [if_pos ((le_iff_toRat_le hlo hhi).mpr hle)]
  unfold doubleFrom
  split
  · exact ensures_pure ⟨hlo, le_rfl, hle⟩
  · refine unit_between.bind fun t ⟨ht, hge, hle'⟩ => ensures_pure ?_
    exact clamp_between (weighed_isNaN hlo hhi ht hge hle') hlo hhi hle

/-- A number with a fraction takes one word at most, and none is refused. -/
theorem doubleBetween_run (lo hi : Double) (limit : Nat) (src : σ) :
    ∃ x rest, (doubleBetween lo hi : Draw σ ε Double).run limit src = (.ok x, rest) := by
  have from_ (lo hi : Double) :
      ∃ x rest, (doubleFrom lo hi : Draw σ ε Double).run limit src = (.ok x, rest) := by
    unfold doubleFrom
    split
    · exact ⟨_, _, rfl⟩
    · exact ⟨_, _, rfl⟩
  unfold doubleBetween
  split
  · exact from_ lo hi
  · exact from_ hi lo

end Specimen.Draw
