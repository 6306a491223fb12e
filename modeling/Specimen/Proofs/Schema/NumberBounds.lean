import Specimen.Proofs.Double.Arithmetic
import Specimen.Proofs.Schema.Bounds

/-!
# Ranges of numbers keep their bounds

The bounds of a node are finite numbers of any size here, and what it says of a number is again
an inequality for each keyword (`Node.Keeps`). The range that numbers are drawn from never goes
past a bound. A strict bound is kept by moving it inward by one, or by taking the middle of a
narrow range, and that leaves two ways to end up on the bound itself (`Node.Reaches`): from
`2 ^ 53` on the sum with one can be rounded back to the bound (`Bound.IsStuck.le_abs`), and
between two neighbours there is no number for a middle (`Node.IsGapless`).
-/

namespace Specimen

open Double

/-! ## What is said of numbers -/

/-- A number keeps the bounds that a node states on one side, as these are read, and the strict
ones strictly if that is asked for. -/
structure Node.Keeps (node : Node) (side : Side) (strictly : Bool) (q : Rat) : Prop where
  plain : ∀ b, node.double? side.plainKeyword = some b → side.Admits false b.toRat q
  flagged : ∀ b, node.double? side.plainKeyword = some b → node.flag side.strictKeyword = true →
    side.Admits strictly b.toRat q
  strict : ∀ b, node.double? side.strictKeyword = some b → side.Admits strictly b.toRat q

/-- The bounds of a node are finite numbers. -/
def Node.HasFiniteBounds (node : Node) : Prop := ∀ (side : Side) (b : Double),
  node.double? side.plainKeyword = some b ∨ node.double? side.strictKeyword = some b →
    b.isFinite = true

theorem Node.hasFiniteBounds_of_all {node : Node}
    (h : ∀ side : Side, (node.double? side.plainKeyword).all (·.isFinite) = true
      ∧ (node.double? side.strictKeyword).all (·.isFinite) = true) : node.HasFiniteBounds := by
  rintro side b (hb | hb)
  · have := (h side).1
    rwa [hb] at this
  · have := (h side).2
    rwa [hb] at this

/-- One end of the range of numbers, given the bound on its side: a strict bound is moved inward
by one. -/
def Bound.moved (b : Bound) (side : Side) : Double :=
  if b.strict then
    match side with
    | .lower => b.value + .ofInt 1
    | .upper => b.value - .ofInt 1
  else b.value

/-- A strict bound stays where it is when it is moved, as the sum is rounded back to it. -/
structure Bound.IsStuck (b : Bound) (side : Side) : Prop where
  strict : b.strict = true
  moved : (b.moved side).toRat = b.value.toRat

/-- A node has a bound on both sides, and the two are different but there is no number between
them. -/
def Node.IsGapless (node : Node) : Prop := ∃ a b, node.bound? .lower = some a
  ∧ node.bound? .upper = some b ∧ a.value.toRat < b.value.toRat
  ∧ ∀ x : Double, ¬ (a.value.toRat < x.toRat ∧ x.toRat < b.value.toRat)

/-- A number is the bound of a side itself, which is strict but cannot be kept apart. -/
structure Node.Reaches (node : Node) (side : Side) (b : Bound) (q : Rat) : Prop where
  bound : node.bound? side = some b
  strict : b.strict = true
  reached : q = b.value.toRat
  reason : b.IsStuck side ∨ node.IsGapless

/-! ## Bounds as they are read -/

namespace Node

variable {node : Node} {side : Side} {strictly : Bool} {q : Rat} {b : Bound}

theorem plainBound?_keeps (h : node.HasFiniteBounds) (side : Side) (strictly : Bool) (q : Rat) :
    (∀ b, node.plainBound? side = some b → b.value.isFinite = true)
      ∧ ((∀ b, node.plainBound? side = some b → b.Keeps side strictly q) ↔
        ∀ x, node.double? side.plainKeyword = some x → side.Admits false x.toRat q
          ∧ (node.flag side.strictKeyword = true → side.Admits strictly x.toRat q)) := by
  unfold plainBound? Bound.Keeps
  cases hread : node.double? side.plainKeyword with
  | none => simp
  | some x =>
      refine ⟨fun b hb => Option.some.inj hb ▸ h side x (.inl hread), ?_⟩
      cases node.flag side.strictKeyword <;> cases strictly <;> simp
      exact Side.Admits.weaken

theorem strictBound?_keeps (h : node.HasFiniteBounds) (side : Side) (strictly : Bool) (q : Rat) :
    (∀ b, node.strictBound? side = some b → b.value.isFinite = true)
      ∧ ((∀ b, node.strictBound? side = some b → b.Keeps side strictly q) ↔
        ∀ x, node.double? side.strictKeyword = some x → side.Admits strictly x.toRat q) := by
  unfold strictBound? Bound.Keeps
  cases hread : node.double? side.strictKeyword with
  | none => simp
  | some x => exact ⟨fun b hb => Option.some.inj hb ▸ h side x (.inr hread), by simp⟩

theorem keeps_iff_all : node.Keeps side strictly q ↔
    (∀ x, node.double? side.plainKeyword = some x → side.Admits false x.toRat q
        ∧ (node.flag side.strictKeyword = true → side.Admits strictly x.toRat q))
      ∧ ∀ x, node.double? side.strictKeyword = some x → side.Admits strictly x.toRat q :=
  ⟨fun h => ⟨fun x hx => ⟨h.plain x hx, h.flagged x hx⟩, h.strict⟩,
    fun h => ⟨fun x hx => (h.1 x hx).1, fun x hx => (h.1 x hx).2, h.2⟩⟩

/-- The bound of a side says all that the node says about the side. -/
theorem bound?_keeps (h : node.HasFiniteBounds) (side : Side) :
    (∀ b, node.bound? side = some b → b.value.isFinite = true)
      ∧ ∀ strictly q, node.Keeps side strictly q
        ↔ ∀ b, node.bound? side = some b → b.Keeps side strictly q := by
  have hplain := plainBound?_keeps h side
  have hstrict := strictBound?_keeps h side
  have hall (strictly : Bool) (q : Rat) : node.Keeps side strictly q ↔ _ :=
    keeps_iff_all.trans (and_congr (hplain strictly q).2.symm (hstrict strictly q).2.symm)
  have hfinite := (hplain true 0).1
  have hfinite' := (hstrict true 0).1
  rw [bound?_eq]
  cases hp : node.plainBound? side with
  | none =>
      rw [hp] at hall
      exact ⟨hfinite', fun strictly q => (hall strictly q).trans (and_iff_right nofun)⟩
  | some a =>
      cases hs : node.strictBound? side with
      | none =>
          rw [hp, hs] at hall
          exact ⟨fun b hb => hfinite b (hp.trans hb),
            fun strictly q => (hall strictly q).trans (and_iff_left nofun)⟩
      | some b =>
          have ha := hfinite a hp
          have hb := hfinite' b hs
          refine ⟨fun c hc => ?_, fun strictly q => ?_⟩
          · obtain rfl : a.tighter side b = c := Option.some.inj hc
            unfold Bound.tighter
            split
            · exact ha
            · exact hb
          · rw [hall, hp, hs]
            simp [Bound.keeps_tighter ha hb]

end Node

/-! ## Moved bounds -/

/-- A range whose ends are finite and in order. -/
structure Spans (lo hi : Double) : Prop where
  lower : lo.isFinite = true
  upper : hi.isFinite = true
  le : lo.toRat ≤ hi.toRat

theorem isInt_one : IsInt (.ofInt 1) 1 := isInt_ofInt (by decide)

namespace Bound

variable {b : Bound} {side : Side} {q : Rat}

theorem toRat_moved_lower (h : b.value.isFinite = true) (hstrict : b.strict = true) :
    (b.moved .lower).toRat = rounded (b.value.toRat + 1) := by
  unfold moved
  rw [if_pos hstrict, toRat_add h isInt_one.isFinite, isInt_one.toRat, Int.cast_one]

theorem toRat_moved_upper (h : b.value.isFinite = true) (hstrict : b.strict = true) :
    (b.moved .upper).toRat = rounded (b.value.toRat - 1) := by
  unfold moved
  rw [if_pos hstrict, toRat_sub h isInt_one.isFinite, isInt_one.toRat, Int.cast_one]

theorem moved_of_not_strict (hstrict : b.strict = false) : b.moved side = b.value := by
  unfold moved
  rw [if_neg (by rw [hstrict]; decide)]

theorem isFinite_moved (h : b.value.isFinite = true) : (b.moved side).isFinite = true := by
  have hsmall : |(ofInt 1).toRat| ≤ 2 ^ 31 := by
    rw [isInt_one.toRat]
    norm_num
  unfold moved
  split
  · cases side with
    | lower => exact isFinite_add h isInt_one.isFinite hsmall
    | upper => exact isFinite_sub h isInt_one.isFinite hsmall
  · exact h

/-- A bound is not moved outward. -/
theorem admits_moved (h : b.value.isFinite = true) (side : Side) :
    side.Admits false b.value.toRat (b.moved side).toRat := by
  cases hstrict : b.strict with
  | false =>
      rw [moved_of_not_strict hstrict]
      cases side <;> exact le_rfl
  | true =>
      cases side with
      | lower =>
          rw [toRat_moved_lower h hstrict]
          exact le_rounded h (by linarith)
      | upper =>
          rw [toRat_moved_upper h hstrict]
          exact rounded_le h (by linarith)

/-- Only bounds from `2 ^ 53` on can stay where they are. -/
theorem IsStuck.le_abs (hstuck : b.IsStuck side) (h : b.value.isFinite = true) :
    2 ^ 53 ≤ |b.value.toRat| := by
  by_contra hsmall
  have hmoved := hstuck.moved
  cases side with
  | lower =>
      rw [toRat_moved_lower h hstuck.strict] at hmoved
      exact (lt_rounded_add_one (not_le.mp hsmall)).ne' hmoved
  | upper =>
      rw [toRat_moved_upper h hstuck.strict] at hmoved
      exact (rounded_sub_one_lt (not_le.mp hsmall)).ne hmoved

end Bound

namespace Side

variable {side : Side} {bound q r : Rat}

theorem Admits.trans (hq : side.Admits false bound q) (hr : side.Admits false q r) :
    side.Admits false bound r := by
  cases side <;> simp only [Admits] at hq hr ⊢ <;> linarith

theorem Admits.antisymm (hq : side.Admits false bound q) (hr : side.Admits false q bound) :
    q = bound := by
  cases side <;> simp only [Admits] at hq hr <;> linarith

/-- What is not past a bound is inside of it or the bound itself. -/
theorem Admits.strict_or_eq (hq : side.Admits false bound q) :
    side.Admits true bound q ∨ q = bound := by
  cases side with
  | lower => exact (lt_or_eq_of_le hq).imp_right Eq.symm
  | upper => exact lt_or_eq_of_le hq

end Side

namespace Node

variable {node : Node} {side : Side} {b : Bound} {q : Rat} {lo hi : Double}

/-- A number from the moved bound on keeps the bound, unless it is stuck. -/
theorem keeps_of_moved (h : node.HasFiniteBounds) (hb : node.bound? side = some b)
    (hq : side.Admits false (b.moved side).toRat q) :
    b.Keeps side true q ∨ node.Reaches side b q := by
  have hfinite := (bound?_keeps h side).1 b hb
  have hmoved := b.admits_moved hfinite side
  unfold Bound.Keeps
  rw [Bool.and_true]
  cases hstrict : b.strict with
  | false =>
      rw [Bound.moved_of_not_strict hstrict] at hq
      exact .inl hq
  | true =>
      rcases (hmoved.trans hq).strict_or_eq with hinside | rfl
      · exact .inl hinside
      · exact .inr ⟨hb, hstrict, rfl, .inl ⟨hstrict, hmoved.antisymm hq⟩⟩

/-! ## Ranges -/

theorem isInt_openBound : IsInt (.ofInt openBound) openBound :=
  isInt_ofInt (by unfold openBound; decide)

theorem toRat_openBound : (Double.ofInt openBound).toRat = 2 ^ 31 - 1 := by
  rw [isInt_openBound.toRat, openBound]
  norm_num

theorem openBound_small : |(Double.ofInt openBound).toRat| ≤ 2 ^ 31 := by
  rw [toRat_openBound]
  norm_num

theorem isFinite_neg_openBound : (-.ofInt openBound : Double).isFinite = true :=
  (isFinite_neg _).trans isInt_openBound.isFinite

/-- Above a lower bound the upper side is closed where it leaves room. -/
theorem closeNumbers_above (hlo : lo.isFinite = true) :
    Spans (closeNumbers (some lo) none).1 (closeNumbers (some lo) none).2 := by
  have hfar := isInt_openBound.isFinite
  unfold closeNumbers
  dsimp only
  split
  · refine ⟨hlo, isFinite_add hlo hfar openBound_small, ?_⟩
    rw [toRat_add hlo hfar]
    exact le_rounded hlo (by rw [toRat_openBound]; linarith)
  · next hge =>
      rw [not_lt_iff (isNaN_of_isFinite hfar) (isNaN_of_isFinite hlo)] at hge
      exact ⟨hlo, hfar, hge⟩

/-- Below an upper bound the lower side is closed where it leaves room. -/
theorem closeNumbers_below (hhi : hi.isFinite = true) :
    Spans (closeNumbers none (some hi)).1 (closeNumbers none (some hi)).2 := by
  have hfar := isInt_openBound.isFinite
  have hnear := isFinite_neg_openBound
  unfold closeNumbers
  dsimp only
  split
  · refine ⟨isFinite_sub hhi hfar openBound_small, hhi, ?_⟩
    rw [toRat_sub hhi hfar]
    exact rounded_le hhi (by rw [toRat_openBound]; linarith)
  · next hge =>
      rw [not_lt_iff (isNaN_of_isFinite hhi) (isNaN_of_isFinite hnear)] at hge
      exact ⟨hnear, hhi, hge⟩

theorem closeNumbers_spans {lo? hi? : Option Double} (hlo : ∀ x ∈ lo?, x.isFinite = true)
    (hhi : ∀ x ∈ hi?, x.isFinite = true) (hopen : lo? = none ∨ hi? = none) :
    Spans (closeNumbers lo? hi?).1 (closeNumbers lo? hi?).2 := by
  cases lo? with
  | none =>
      cases hi? with
      | none =>
          refine ⟨isFinite_neg_openBound, isInt_openBound.isFinite, ?_⟩
          show (Double.ofInt openBound).neg.toRat ≤ (Double.ofInt openBound).toRat
          rw [toRat_neg, toRat_openBound]
          norm_num
      | some hi => exact closeNumbers_below (hhi hi rfl)
  | some lo =>
      obtain rfl : hi? = none := hopen.resolve_left (by simp)
      exact closeNumbers_above (hlo lo rfl)

theorem closeNumbers_fst {lo : Double} (hi? : Option Double) :
    (closeNumbers (some lo) hi?).1 = lo := by
  unfold closeNumbers
  cases hi? with
  | none => dsimp only; split <;> rfl
  | some hi => rfl

theorem closeNumbers_snd {hi : Double} (lo? : Option Double) :
    (closeNumbers lo? (some hi)).2 = hi := by
  unfold closeNumbers
  cases lo? with
  | none => dsimp only; split <;> rfl
  | some lo => rfl

/-- The ends between which numbers are drawn, where these are in order. -/
def ends (node : Node) : Double × Double :=
  closeNumbers ((node.bound? .lower).map (·.moved .lower))
    ((node.bound? .upper).map (·.moved .upper))

theorem numberRange_eq (node : Node) : node.numberRange =
    if node.ends.1 ≤ node.ends.2 then .ok node.ends
    else
      match node.bound? .lower, node.bound? .upper with
      | some lower, some upper =>
        if lower.exclude upper then
          .error (.malformed (.noNumber lower.value lower.strict upper.value upper.strict))
        else
          .ok (lower.value / .ofInt 2 + upper.value / .ofInt 2,
            lower.value / .ofInt 2 + upper.value / .ofInt 2)
      | _, _ => .ok (node.ends.2, node.ends.1) := rfl

/-- The ends are in order, or both sides have a bound and the two have been moved past each
other. -/
theorem ends_cases (h : node.HasFiniteBounds) : Spans node.ends.1 node.ends.2
    ∨ ∃ a b, node.bound? .lower = some a ∧ node.bound? .upper = some b
      ∧ node.ends = (a.moved .lower, b.moved .upper)
      ∧ (b.moved .upper).toRat < (a.moved .lower).toRat := by
  have hfinite (side : Side) (x : Double) (hx : x ∈ (node.bound? side).map (·.moved side)) :
      x.isFinite = true := by
    obtain ⟨b, hb, rfl⟩ := Option.map_eq_some_iff.mp hx
    exact Bound.isFinite_moved ((bound?_keeps h side).1 b hb)
  have hspans := closeNumbers_spans (hfinite .lower) (hfinite .upper)
  unfold ends
  cases ha : node.bound? .lower with
  | none => exact .inl (by simpa [ha] using hspans)
  | some a =>
      cases hb : node.bound? .upper with
      | none => exact .inl (by simpa [ha, hb] using hspans)
      | some b =>
          have hlower := hfinite .lower (a.moved .lower) (by simp [ha])
          have hupper := hfinite .upper (b.moved .upper) (by simp [hb])
          rcases le_or_gt (a.moved .lower).toRat (b.moved .upper).toRat with hle | hlt
          · exact .inl ⟨hlower, hupper, hle⟩
          · exact .inr ⟨a, b, rfl, rfl, rfl, hlt⟩

/-- A range of numbers is what the bounds of a node leave, but for strict bounds that are
reached. -/
structure IsNumberRange (node : Node) (lo hi : Double) : Prop extends Spans lo hi where
  kept : ∀ q, lo.toRat ≤ q → q ≤ hi.toRat → ∀ side b, node.bound? side = some b →
    b.Keeps side true q ∨ node.Reaches side b q

theorem ends_isNumberRange (h : node.HasFiniteBounds) (hspans : Spans node.ends.1 node.ends.2) :
    node.IsNumberRange node.ends.1 node.ends.2 where
  toSpans := hspans
  kept q hlow hhigh side b hb := by
    apply keeps_of_moved h hb
    unfold ends at hlow hhigh
    cases side with
    | lower =>
        rw [hb, Option.map_some, closeNumbers_fst] at hlow
        exact hlow
    | upper =>
        rw [hb, Option.map_some, closeNumbers_snd] at hhigh
        exact hhigh

/-- Between different bounds the middle keeps them both, unless there is no number between
them. -/
theorem middle_isNumberRange {a b : Bound} (h : node.HasFiniteBounds)
    (ha : node.bound? .lower = some a) (hb : node.bound? .upper = some b)
    (hlt : a.value.toRat < b.value.toRat) :
    node.IsNumberRange (a.value / .ofInt 2 + b.value / .ofInt 2)
      (a.value / .ofInt 2 + b.value / .ofInt 2) := by
  have hafinite := (bound?_keeps h .lower).1 a ha
  have hbfinite := (bound?_keeps h .upper).1 b hb
  obtain ⟨hfinite, hvalue⟩ := toRat_middle hafinite hbfinite hlt
  obtain ⟨hlow, hhigh⟩ := middle_between hafinite hbfinite hlt
  refine ⟨⟨hfinite, hfinite, le_rfl⟩, fun q hge hle side c hc => ?_⟩
  obtain rfl : q = middle a.value.toRat b.value.toRat := hvalue ▸ le_antisymm hle hge
  have hadmits : side.Admits false c.value.toRat (middle a.value.toRat b.value.toRat) := by
    cases side with
    | lower => exact Option.some.inj (ha.symm.trans hc) ▸ le_rounded hafinite hlow
    | upper => exact Option.some.inj (hb.symm.trans hc) ▸ rounded_le hbfinite hhigh
  unfold Bound.Keeps
  rw [Bool.and_true]
  cases hstrict : c.strict with
  | false => exact .inl hadmits
  | true =>
      rcases hadmits.strict_or_eq with hinside | heq
      · exact .inl hinside
      · refine .inr ⟨hc, hstrict, heq, .inr ⟨a, b, ha, hb, hlt, fun x ⟨hax, hxb⟩ => ?_⟩⟩
        cases side with
        | lower =>
            obtain rfl := Option.some.inj (ha.symm.trans hc)
            exact (lt_middle hafinite hbfinite hax hxb).ne' heq
        | upper =>
            obtain rfl := Option.some.inj (hb.symm.trans hc)
            exact (middle_lt hafinite hbfinite hax hxb).ne heq

end Node

namespace Bound

variable {a b : Bound} {q : Rat}

theorem exclude_iff (ha : a.value.isFinite = true) (hb : b.value.isFinite = true) :
    a.exclude b = true ↔ b.value.toRat < a.value.toRat
      ∨ a.value.toRat = b.value.toRat ∧ (a.strict = true ∨ b.strict = true) := by
  unfold exclude
  rw [Bool.or_eq_true, Bool.and_eq_true, Bool.or_eq_true, same_iff_toRat_eq ha hb,
    decide_eq_true_iff, lt_iff_toRat_lt hb ha]

/-- No number keeps two bounds that exclude each other. -/
theorem not_keeps_of_exclude (ha : a.value.isFinite = true) (hb : b.value.isFinite = true)
    (h : a.exclude b = true) (hlower : a.Keeps .lower true q) : ¬ b.Keeps .upper true q := by
  intro hupper
  unfold Keeps at hlower hupper
  rw [Bool.and_true] at hlower hupper
  have hlow : a.value.toRat ≤ q := hlower.weaken
  have hhigh : q ≤ b.value.toRat := hupper.weaken
  rcases (exclude_iff ha hb).mp h with hlt | ⟨heq, hstrict | hstrict⟩
  · linarith
  · rw [hstrict] at hlower
    exact absurd (hhigh.trans_eq heq.symm) (not_le.mpr hlower)
  · rw [hstrict] at hupper
    exact absurd (heq.symm.trans_le hlow) (not_le.mpr hupper)

/-- Bounds that are moved past each other but do not exclude each other are different. -/
theorem lt_of_not_exclude (ha : a.value.isFinite = true) (hb : b.value.isFinite = true)
    (h : ¬ a.exclude b = true) (hpast : (b.moved .upper).toRat < (a.moved .lower).toRat) :
    a.value.toRat < b.value.toRat := by
  rw [exclude_iff ha hb] at h
  obtain ⟨hge, hties⟩ := not_or.mp h
  refine lt_of_le_of_ne (not_lt.mp hge) fun heq => ?_
  obtain ⟨hweak, hweak'⟩ := not_or.mp fun hstrict => hties ⟨heq, hstrict⟩
  rw [moved_of_not_strict (Bool.eq_false_iff.mpr hweak),
    moved_of_not_strict (Bool.eq_false_iff.mpr hweak'), heq] at hpast
  exact hpast.false

end Bound

namespace Node

variable {node : Node} {lo hi : Double}

/-- The range of numbers of a node with finite bounds goes past none of them, and it is refused
just if there is nothing between them. -/
theorem numberRange_spec (h : node.HasFiniteBounds) :
    (∀ lo hi, node.numberRange = .ok (lo, hi) → node.IsNumberRange lo hi)
      ∧ ∀ e, node.numberRange = .error e →
        e.category = .malformedSchema ∧ ∀ q, ¬ ∀ side, node.Keeps side true q := by
  rw [numberRange_eq]
  rcases ends_cases h with hspans | ⟨a, b, ha, hb, hends, hpast⟩
  · rw [if_pos ((le_iff_toRat_le hspans.lower hspans.upper).mpr hspans.le)]
    refine ⟨fun lo hi hrange => ?_, nofun⟩
    have hrange := Except.ok.inj hrange
    have := ends_isNumberRange h hspans
    rwa [hrange] at this
  have hafinite := (bound?_keeps h .lower).1 a ha
  have hbfinite := (bound?_keeps h .upper).1 b hb
  rw [hends, if_neg (fun hle => hpast.not_ge ((le_iff_toRat_le (Bound.isFinite_moved hafinite)
    (Bound.isFinite_moved hbfinite)).mp hle)), ha, hb]
  dsimp only
  split
  · next hnone =>
      refine ⟨nofun, fun e he => ?_⟩
      cases he
      refine ⟨rfl, fun q hq => ?_⟩
      have hlower := ((bound?_keeps h .lower).2 true q).mp (hq .lower) a ha
      have hupper := ((bound?_keeps h .upper).2 true q).mp (hq .upper) b hb
      exact Bound.not_keeps_of_exclude hafinite hbfinite hnone hlower hupper
  · next hsome =>
      refine ⟨fun lo hi hrange => ?_, nofun⟩
      cases hrange
      exact middle_isNumberRange h ha hb
        (Bound.lt_of_not_exclude hafinite hbfinite hsome hpast)

end Node

end Specimen
