import Specimen.Proofs.Draw.Follows
import Specimen.Random.Uniform

/-!
# Even choices stay in their ranges

A number below `n` is the high part of the product of a word and `n`, whatever
low part was accepted, so it lies below `n` (`redraw_ensures`). The ranges of
integers and counts follow from that by addition. None of these draws can fail:
they are stated for failures of every kind, the empty one included.

Every draw here is steady. The only one that looks at its limit is the redrawing
loop, and it ends after as many words under any limit that lets it end.
-/

namespace Specimen.Draw

variable {σ ε : Type} {E : ε → Prop}

/-! ## Numbers below a bound -/

theorem redraw_ensures {bits n : Nat} (hn : 0 < n) {accept : Nat → Bool} {word : Draw σ ε Nat}
    (hword : Ensures word (· < 1 <<< bits) E) :
    ∀ tries, Ensures (redraw bits n accept word tries) (· < n) E
  | 0 => ensures_endless
  | tries + 1 => by
      refine hword.bind fun w hw => ?_
      split
      · refine ensures_pure (Nat.div_lt_of_lt_mul ?_)
        exact Nat.mul_lt_mul_of_pos_right hw hn
      · exact redraw_ensures hn hword tries

theorem below_ensures {bits n : Nat} (hn : 0 < n) {word : Draw σ ε Nat}
    (hword : Ensures word (· < 1 <<< bits) E) : Ensures (below bits word n) (· < n) E := by
  unfold below
  split
  · next h => exact h ▸ hword
  · exact ensures_limit.bind fun tries _ => redraw_ensures hn hword tries

/-- Among no numbers there is none to draw, so every word is refused. -/
theorem belowExact_ensures {bits n : Nat} {word : Draw σ ε Nat}
    (hword : Ensures word (· < 1 <<< bits) E) : Ensures (belowExact bits word n) (· < n) E := by
  refine ensures_limit.bind fun tries _ => ?_
  rcases Nat.eq_zero_or_pos n with rfl | hn
  · induction tries with
    | zero => exact ensures_endless
    | succ tries ih =>
        refine hword.bind fun w _ => ?_
        have hpos : 0 < 1 <<< bits := by
          rw [Nat.shiftLeft_eq, Nat.one_mul]
          exact Nat.two_pow_pos bits
        rw [if_neg (by simp only [Nat.sub_zero, Nat.mod_zero, Nat.mul_zero, Nat.zero_mod,
          decide_eq_true_eq]; omega)]
        exact ih
  · exact redraw_ensures hn hword tries

theorem steady_redraw {bits n : Nat} {accept : Nat → Bool} {word : Draw σ ε Nat}
    (hword : Steady word) :
    ∀ tries, Follows (· = ·) (· = ·) (redraw bits n accept word) (redraw bits n accept word tries)
  | 0 => follows_endless
  | tries + 1 => by
      refine .of_succ (Follows.bind hword fun w _ hw => ?_)
      subst hw
      cases h : accept (w * n % (1 <<< bits)) with
      | true => exact steady_pure _
      | false => exact steady_redraw hword tries

theorem steady_below {bits n : Nat} {word : Draw σ ε Nat} (hword : Steady word) :
    Steady (below bits word n) := by
  unfold below
  split
  · exact hword
  · exact follows_limit_bind (steady_redraw hword)

theorem steady_belowExact {bits n : Nat} {word : Draw σ ε Nat} (hword : Steady word) :
    Steady (belowExact bits word n) :=
  follows_limit_bind (steady_redraw hword)

variable [Source σ]

theorem word32_ensures : Ensures (word32 : Draw σ ε Nat) (· < 1 <<< 32) E where
  value {limit s a s'} hrun := by
    obtain ⟨⟨⟩, -⟩ := Prod.mk.inj hrun
    exact UInt32.toNat_lt _
  failure hrun := by simp [word32, run] at hrun

theorem word64_ensures : Ensures (word64 : Draw σ ε Nat) (· < 1 <<< 64) E where
  value {limit s a s'} hrun := by
    obtain ⟨⟨⟩, -⟩ := Prod.mk.inj hrun
    exact UInt64.toNat_lt _
  failure hrun := by simp [word64, run] at hrun

theorem below32_ensures {n : Nat} (hn : 0 < n) : Ensures (below32 n : Draw σ ε Nat) (· < n) E :=
  below_ensures hn word32_ensures

theorem below64_ensures {n : Nat} (hn : 0 < n) : Ensures (below64 n : Draw σ ε Nat) (· < n) E :=
  below_ensures hn word64_ensures

theorem steady_below32 (n : Nat) : Steady (below32 n : Draw σ ε Nat) := steady_below steady_word32

theorem steady_below64 (n : Nat) : Steady (below64 n : Draw σ ε Nat) := steady_below steady_word64

/-! ## Ranges -/

/-- Where the range is all of the 64-bit integers a whole word is read as one of
them; otherwise an offset below the width is added to the lower end. -/
theorem integerFrom_ensures {lo hi : Int} (hle : lo ≤ hi) (hlo : int64Min ≤ lo)
    (hhi : hi ≤ int64Max) :
    Ensures (integerFrom lo hi : Draw σ ε Int) (fun n => lo ≤ n ∧ n ≤ hi) E := by
  unfold int64Min at hlo
  unfold int64Max at hhi
  unfold integerFrom
  dsimp only
  split
  · next hwidth =>
      refine word64_ensures.bind fun w hw => ensures_pure ?_
      split <;> omega
  · refine (below64_ensures (by omega)).bind fun offset hoffset => ensures_pure ?_
    omega

theorem intBetween_ensures {a b : Int} (ha : int64Min ≤ a ∧ a ≤ int64Max)
    (hb : int64Min ≤ b ∧ b ≤ int64Max) :
    Ensures (intBetween a b : Draw σ ε Int) (fun n => min a b ≤ n ∧ n ≤ max a b) E := by
  unfold intBetween
  split
  · next h => exact (integerFrom_ensures h ha.1 hb.2).imp_value fun n hn => by omega
  · next h =>
      exact (integerFrom_ensures (by omega) hb.1 ha.2).imp_value fun n hn => by omega

theorem countBetween_ensures (a b : Nat) :
    Ensures (countBetween a b : Draw σ ε Nat) (fun n => min a b ≤ n ∧ n ≤ max a b) E := by
  refine (below64_ensures (Nat.succ_pos _)).bind fun offset hoffset => ensures_pure ?_
  omega

theorem steady_intBetween (a b : Int) : Steady (intBetween a b : Draw σ ε Int) := by
  have from_ (lo hi : Int) : Steady (integerFrom lo hi : Draw σ ε Int) := by
    unfold integerFrom
    dsimp only
    split
    · exact steady_word64.bind fun _ => steady_pure _
    · exact (steady_below64 _).bind fun _ => steady_pure _
  unfold intBetween
  split
  · exact from_ a b
  · exact from_ b a

theorem steady_countBetween (a b : Nat) : Steady (countBetween a b : Draw σ ε Nat) :=
  (steady_below64 _).bind fun _ => steady_pure _

theorem boolean_ensures : Ensures (boolean : Draw σ ε Bool) (fun _ => True) E :=
  word64_ensures.bind fun _ _ => ensures_pure trivial

theorem steady_boolean : Steady (boolean : Draw σ ε Bool) :=
  steady_word64.bind fun _ => steady_pure _

theorem unit_ensures : Ensures (unit : Draw σ ε Double) (fun _ => True) E :=
  word64_ensures.bind fun _ _ => ensures_pure trivial

theorem steady_unit : Steady (unit : Draw σ ε Double) :=
  steady_word64.bind fun _ => steady_pure _

theorem doubleBetween_ensures (a b : Double) :
    Ensures (doubleBetween a b : Draw σ ε Double) (fun _ => True) E := by
  have from_ (lo hi : Double) : Ensures (doubleFrom lo hi : Draw σ ε Double) (fun _ => True) E := by
    unfold doubleFrom
    split
    · exact ensures_pure trivial
    · exact unit_ensures.bind fun _ _ => ensures_pure trivial
  unfold doubleBetween
  split
  · exact from_ a b
  · exact from_ b a

theorem steady_doubleBetween (a b : Double) : Steady (doubleBetween a b : Draw σ ε Double) := by
  have from_ (lo hi : Double) : Steady (doubleFrom lo hi : Draw σ ε Double) := by
    unfold doubleFrom
    split
    · exact steady_pure _
    · exact steady_unit.bind fun _ => steady_pure _
  unfold doubleBetween
  split
  · exact from_ a b
  · exact from_ b a

end Specimen.Draw
