import Mathlib.Order.Bounds.Basic
import Specimen.Proofs.Double.Grid
import Specimen.Schema.Bounds
import Specimen.Validation.Values

/-!
# Ranges of integers are exact

What the bounds of a node say about a number is an inequality between rationals for each
keyword (`Node.Admits`). The bound that is read off a side says the same as all of its
keywords together (`bound?_cases`), and the integer next to it, reached by rounding inward
or by a step past it, is the first that keeps it (`leastInteger_le_iff`,
`le_greatestInteger_iff`).

So the range that integers are drawn from is exact as long as the bounds are numbers that
are no larger than `2 ^ 53` (`integerRange_exact`): on each side that has a bound it ends at
the last integer that keeps it, and it is refused just if no integer is left.
-/

namespace Specimen

/-! ## What bounds say -/

/-- A number `q` keeps a bound on one side. -/
def Side.Admits : Side → (strict : Bool) → (bound q : Rat) → Prop
  | lower, false, bound, q => bound ≤ q
  | lower, true, bound, q => bound < q
  | upper, false, bound, q => q ≤ bound
  | upper, true, bound, q => q < bound

/-- A bound lies on the inner side of another. -/
def Side.Inside : Side → (bound other : Rat) → Prop
  | lower, bound, other => other < bound
  | upper, bound, other => bound < other

/-- A number keeps the bounds that a node states on one side: the plain one, which a flag
can make strict, and the one that is strict by itself. -/
structure Node.Admits (node : Node) (side : Side) (q : Rat) : Prop where
  plain : ∀ b, node.value? side.plainKeyword = some (.number b) → side.Admits false b.toRat q
  flagged : ∀ b, node.value? side.plainKeyword = some (.number b) →
    node.value? side.strictKeyword = some (.bool true) → side.Admits true b.toRat q
  strict : ∀ b, node.value? side.strictKeyword = some (.number b) → side.Admits true b.toRat q

/-- A node states a bound on a side. A flag alone is none. -/
def Node.IsBounded (node : Node) (side : Side) : Prop :=
  ∃ b, node.value? side.plainKeyword = some (.number b)
    ∨ node.value? side.strictKeyword = some (.number b)

/-- A number that is finite and no larger than `2 ^ 53`. -/
def Number.IsModest : Number → Prop
  | int n => n.natAbs ≤ 2 ^ 53
  | float x => x.isFinite = true ∧ |x.toRat| ≤ 2 ^ 53

/-- The bounds of a node are modest numbers, and flags are flags. -/
structure Node.HasModestBounds (node : Node) : Prop where
  plain : ∀ (side : Side) (value : Json), node.value? side.plainKeyword = some value →
    ∃ b, value = .number b ∧ b.IsModest
  strict : ∀ (side : Side) (value : Json), node.value? side.strictKeyword = some value →
    (∃ flag, value = .bool flag) ∨ ∃ b, value = .number b ∧ b.IsModest

/-! ## Bounds as they are read -/

namespace Side

variable {side : Side} {bound other q : Rat} {strict strict' : Bool}

theorem Admits.of_inside (h : side.Inside bound other) (hq : side.Admits strict bound q) :
    side.Admits strict' other q := by
  cases side <;> cases strict <;> cases strict' <;> simp only [Inside, Admits] at h hq ⊢ <;> linarith

theorem Admits.of_strict (hq : side.Admits true bound q) : side.Admits strict bound q := by
  cases side <;> cases strict <;> simp only [Admits] at hq ⊢ <;> linarith

theorem Admits.weaken (hq : side.Admits strict bound q) : side.Admits false bound q := by
  cases side <;> cases strict <;> simp only [Admits] at hq ⊢ <;> linarith

theorem inside_of_not_inside (h : ¬ side.Inside bound other) (hne : bound ≠ other) :
    side.Inside other bound := by
  cases side with
  | lower => exact lt_of_le_of_ne (not_lt.mp h) hne
  | upper => exact lt_of_le_of_ne (not_lt.mp h) hne.symm

end Side

namespace Bound

/-- A number keeps a bound. -/
def Admits (b : Bound) (side : Side) (q : Rat) : Prop := side.Admits b.strict b.value.toRat q

structure IsModest (b : Bound) : Prop where
  isFinite : b.value.isFinite = true
  abs_le : |b.value.toRat| ≤ 2 ^ 53

variable {a b : Bound} {side : Side} {q : Rat}

theorem inside_iff (ha : a.value.isFinite = true) (hb : b.value.isFinite = true) :
    a.inside side b = true ↔ side.Inside a.value.toRat b.value.toRat := by
  unfold inside
  cases side with
  | lower => exact decide_eq_true_iff.trans (Double.lt_iff_toRat_lt hb ha)
  | upper => exact decide_eq_true_iff.trans (Double.lt_iff_toRat_lt ha hb)

theorem IsModest.tighter (ha : a.IsModest) (hb : b.IsModest) : (a.tighter side b).IsModest := by
  unfold Bound.tighter
  split
  · exact ha
  · exact hb

/-- A number keeps a bound, and strictly if the bound is strict and that is asked for. -/
def Keeps (b : Bound) (side : Side) (strictly : Bool) (q : Rat) : Prop :=
  side.Admits (b.strict && strictly) b.value.toRat q

theorem keeps_true : b.Keeps side true q ↔ b.Admits side q := by
  unfold Keeps Admits
  rw [Bool.and_true]

/-- To keep the tighter of two bounds is to keep both. -/
theorem keeps_tighter {strictly : Bool} (ha : a.value.isFinite = true)
    (hb : b.value.isFinite = true) :
    (a.tighter side b).Keeps side strictly q
      ↔ a.Keeps side strictly q ∧ b.Keeps side strictly q := by
  have hsame := Double.same_iff_toRat_eq ha hb
  unfold Bound.tighter
  split
  · next h =>
      rw [Bool.or_eq_true, Bool.and_eq_true, inside_iff ha hb, hsame] at h
      refine (and_iff_left_of_imp fun hkeeps => ?_).symm
      rcases h with hinside | ⟨heq, hstrict⟩
      · exact Side.Admits.of_inside hinside hkeeps
      · unfold Keeps at hkeeps ⊢
        rw [hstrict, heq, Bool.true_and] at hkeeps
        cases strictly with
        | false => rwa [Bool.and_false]
        | true => exact hkeeps.of_strict
  · next h =>
      rw [Bool.or_eq_true, Bool.and_eq_true, inside_iff ha hb, hsame] at h
      obtain ⟨houtside, hties⟩ := not_or.mp h
      refine (and_iff_right_of_imp fun hkeeps => ?_).symm
      by_cases heq : a.value.toRat = b.value.toRat
      · have hweak : a.strict = false := Bool.eq_false_iff.mpr fun hstrict => hties ⟨heq, hstrict⟩
        unfold Keeps at hkeeps ⊢
        rw [hweak, heq, Bool.false_and]
        exact hkeeps.weaken
      · exact Side.Admits.of_inside (Side.inside_of_not_inside houtside heq) hkeeps

theorem admits_tighter (ha : a.IsModest) (hb : b.IsModest) :
    (a.tighter side b).Admits side q ↔ a.Admits side q ∧ b.Admits side q := by
  rw [← keeps_true, ← keeps_true, ← keeps_true]
  exact keeps_tighter ha.isFinite hb.isFinite

/-! ## The integers next to a bound -/

theorem IsModest.leastInteger_spec (h : b.IsModest) :
    (Node.leastInteger b).natAbs ≤ 2 ^ 53 + 1
      ∧ ∀ n : Int, Node.leastInteger b ≤ n ↔ b.Admits .lower n := by
  unfold Node.leastInteger Admits
  cases b.strict with
  | false =>
      obtain ⟨hint, hsmall⟩ := Double.isInt_ceil h.isFinite h.abs_le
      rw [if_neg (by decide), hint.toInt64 hsmall]
      exact ⟨by omega, fun n => Rat.ceil_le_iff⟩
  | true =>
      obtain ⟨hint, hsmall⟩ := Double.isInt_floor h.isFinite h.abs_le
      have hsaturate : saturate (b.value.toRat.floor + 1) = b.value.toRat.floor + 1 := by
        unfold saturate int64Min int64Max
        omega
      rw [if_pos rfl, hint.toInt64 hsmall, hsaturate]
      exact ⟨by omega, fun n => Rat.floor_lt_iff⟩

theorem IsModest.greatestInteger_spec (h : b.IsModest) :
    (Node.greatestInteger b).natAbs ≤ 2 ^ 53 + 1
      ∧ ∀ n : Int, n ≤ Node.greatestInteger b ↔ b.Admits .upper n := by
  unfold Node.greatestInteger Admits
  cases b.strict with
  | false =>
      obtain ⟨hint, hsmall⟩ := Double.isInt_floor h.isFinite h.abs_le
      rw [if_neg (by decide), hint.toInt64 hsmall]
      exact ⟨by omega, fun n => Rat.le_floor_iff⟩
  | true =>
      obtain ⟨hint, hsmall⟩ := Double.isInt_ceil h.isFinite h.abs_le
      have hsaturate : saturate (b.value.toRat.ceil - 1) = b.value.toRat.ceil - 1 := by
        unfold saturate int64Min int64Max
        omega
      rw [if_pos rfl, hint.toInt64 hsmall, hsaturate]
      exact ⟨by omega, fun n => Int.le_sub_one_iff.trans Rat.lt_ceil_iff⟩

end Bound

/-! ## The bound of a side -/

theorem Number.IsModest.bound {n : Number} (h : n.IsModest) (strict : Bool) :
    (⟨n.toDouble, strict⟩ : Bound).IsModest ∧ n.toDouble.toRat = n.toRat := by
  cases n with
  | float x => exact ⟨⟨h.1, h.2⟩, rfl⟩
  | int n =>
      have hsmall : n.natAbs ≤ 2 ^ 53 := h
      have hint := Double.isInt_ofInt hsmall
      refine ⟨⟨hint.isFinite, ?_⟩, hint.toRat⟩
      show |(Double.ofInt n).toRat| ≤ 2 ^ 53
      rw [hint.toRat, abs_le]
      constructor
      · exact_mod_cast (by omega : (-2 ^ 53 : Int) ≤ n)
      · exact_mod_cast (by omega : n ≤ (2 ^ 53 : Int))

namespace Node

variable {node : Node}

/-- The plain bound with the flag that may make it strict. -/
def plainBound? (node : Node) (side : Side) : Option Bound :=
  (node.double? side.plainKeyword).map fun value => ⟨value, node.flag side.strictKeyword⟩

/-- The bound that is strict by itself. -/
def strictBound? (node : Node) (side : Side) : Option Bound :=
  (node.double? side.strictKeyword).map fun value => ⟨value, true⟩

theorem bound?_eq (node : Node) (side : Side) : node.bound? side =
    match node.plainBound? side, node.strictBound? side with
    | some a, some b => some (a.tighter side b)
    | some a, none => some a
    | none, b => b := rfl

theorem flag_eq_true_iff {keyword : String} :
    node.flag keyword = true ↔ node.value? keyword = some (.bool true) := by
  unfold flag bool?
  cases node.value? keyword with
  | none => simp
  | some value => cases value <;> simp [Json.bool?]

theorem plainBound?_cases (h : node.HasModestBounds) (side : Side) :
    (node.value? side.plainKeyword = none ∧ node.plainBound? side = none)
      ∨ ∃ n b, node.value? side.plainKeyword = some (.number n) ∧ node.plainBound? side = some b
          ∧ b.IsModest ∧ ∀ q, b.Admits side q ↔ side.Admits false n.toRat q
            ∧ (node.value? side.strictKeyword = some (.bool true) → side.Admits true n.toRat q) := by
  unfold plainBound? double?
  cases hvalue : node.value? side.plainKeyword with
  | none => exact .inl ⟨rfl, rfl⟩
  | some value =>
      obtain ⟨n, rfl, hn⟩ := h.plain side value hvalue
      obtain ⟨hmodest, htoRat⟩ := hn.bound (node.flag side.strictKeyword)
      refine .inr ⟨n, _, rfl, rfl, hmodest, fun q => ?_⟩
      unfold Bound.Admits
      rw [htoRat, ← flag_eq_true_iff]
      cases node.flag side.strictKeyword with
      | false => simp
      | true => exact ⟨fun hq => ⟨hq.weaken, fun _ => hq⟩, fun hq => hq.2 rfl⟩

theorem strictBound?_cases (h : node.HasModestBounds) (side : Side) :
    ((∀ n, node.value? side.strictKeyword ≠ some (.number n)) ∧ node.strictBound? side = none)
      ∨ ∃ n b, node.value? side.strictKeyword = some (.number n) ∧ node.strictBound? side = some b
          ∧ b.IsModest ∧ ∀ q, b.Admits side q ↔ side.Admits true n.toRat q := by
  unfold strictBound? double?
  cases hvalue : node.value? side.strictKeyword with
  | none => exact .inl ⟨nofun, rfl⟩
  | some value =>
      rcases h.strict side value hvalue with ⟨flag, rfl⟩ | ⟨n, rfl, hn⟩
      · exact .inl ⟨nofun, rfl⟩
      · obtain ⟨hmodest, htoRat⟩ := hn.bound true
        refine .inr ⟨n, _, rfl, rfl, hmodest, fun q => ?_⟩
        unfold Bound.Admits
        rw [htoRat]

/-- What a node says about a side is what its two bounds say. -/
theorem admits_iff {side : Side} {q : Rat} : node.Admits side q ↔
    (∀ n, node.value? side.plainKeyword = some (.number n) → side.Admits false n.toRat q
        ∧ (node.value? side.strictKeyword = some (.bool true) → side.Admits true n.toRat q))
      ∧ ∀ n, node.value? side.strictKeyword = some (.number n) → side.Admits true n.toRat q :=
  ⟨fun h => ⟨fun n hn => ⟨h.plain n hn, h.flagged n hn⟩, h.strict⟩,
    fun h => ⟨fun n hn => (h.1 n hn).1, fun n hn => (h.1 n hn).2, h.2⟩⟩

/-- The bound of a side says all that the node says about the side. -/
theorem bound?_cases (h : node.HasModestBounds) (side : Side) :
    (¬ node.IsBounded side ∧ node.bound? side = none ∧ ∀ q, node.Admits side q)
      ∨ node.IsBounded side ∧ ∃ b, node.bound? side = some b ∧ b.IsModest
          ∧ ∀ q, node.Admits side q ↔ b.Admits side q := by
  rw [bound?_eq]
  unfold IsBounded
  rcases plainBound?_cases h side with ⟨hplain, hnone⟩ | ⟨n, a, hplain, hsome, ha, hadmits⟩ <;>
    rcases strictBound?_cases h side with ⟨hstrict, hnone'⟩ | ⟨m, b, hstrict, hsome', hb, hadmits'⟩
  · refine .inl ⟨by simp [hplain, hstrict], by rw [hnone, hnone'], fun q => ?_⟩
    simp [admits_iff, hplain, hstrict]
  · refine .inr ⟨⟨m, .inr hstrict⟩, b, by rw [hnone, hsome'], hb, fun q => ?_⟩
    simp [admits_iff, hplain, hstrict, hadmits']
  · refine .inr ⟨⟨n, .inl hplain⟩, a, by rw [hsome, hnone'], ha, fun q => ?_⟩
    simp [admits_iff, hplain, hstrict, hadmits]
  · refine .inr ⟨⟨n, .inl hplain⟩, a.tighter side b, by rw [hsome, hsome'], ha.tighter hb,
      fun q => ?_⟩
    simp [admits_iff, hplain, hstrict, hadmits, hadmits', Bound.admits_tighter ha hb]

/-! ## Ranges -/

/-- A range of integers is what the bounds of a node leave: on a side with a bound it ends
at the last integer that keeps it. -/
structure IsExactRange (node : Node) (lo hi : Int) : Prop where
  nonempty : lo ≤ hi
  admitted : ∀ n : Int, lo ≤ n → n ≤ hi → ∀ side, node.Admits side n
  least : node.IsBounded .lower → IsLeast {n : Int | node.Admits .lower n} lo
  greatest : node.IsBounded .upper → IsGreatest {n : Int | node.Admits .upper n} hi
  all : (∀ side, node.IsBounded side) → ∀ n : Int, (∀ side, node.Admits side n) ↔ lo ≤ n ∧ n ≤ hi

/-- The first integer above a lower bound, if the node has one. -/
theorem leastInteger_cases (h : node.HasModestBounds) :
    (¬ node.IsBounded .lower ∧ (node.bound? .lower).map leastInteger = none
        ∧ ∀ q, node.Admits .lower q)
      ∨ node.IsBounded .lower ∧ ∃ lo : Int, (node.bound? .lower).map leastInteger = some lo
          ∧ lo.natAbs ≤ 2 ^ 53 + 1 ∧ ∀ n : Int, node.Admits .lower n ↔ lo ≤ n := by
  rcases bound?_cases h .lower with ⟨hopen, hnone, hall⟩ | ⟨hbounded, b, hsome, hb, hadmits⟩
  · exact .inl ⟨hopen, by rw [hnone, Option.map_none], hall⟩
  · obtain ⟨hsmall, hle⟩ := hb.leastInteger_spec
    refine .inr ⟨hbounded, _, by rw [hsome, Option.map_some], hsmall, fun n => ?_⟩
    rw [hadmits, hle]

/-- The last integer below an upper bound, if the node has one. -/
theorem greatestInteger_cases (h : node.HasModestBounds) :
    (¬ node.IsBounded .upper ∧ (node.bound? .upper).map greatestInteger = none
        ∧ ∀ q, node.Admits .upper q)
      ∨ node.IsBounded .upper ∧ ∃ hi : Int, (node.bound? .upper).map greatestInteger = some hi
          ∧ hi.natAbs ≤ 2 ^ 53 + 1 ∧ ∀ n : Int, node.Admits .upper n ↔ n ≤ hi := by
  rcases bound?_cases h .upper with ⟨hopen, hnone, hall⟩ | ⟨hbounded, b, hsome, hb, hadmits⟩
  · exact .inl ⟨hopen, by rw [hnone, Option.map_none], hall⟩
  · obtain ⟨hsmall, hle⟩ := hb.greatestInteger_spec
    refine .inr ⟨hbounded, _, by rw [hsome, Option.map_some], hsmall, fun n => ?_⟩
    rw [hadmits, hle]

theorem forall_side {P : Side → Prop} : (∀ side, P side) ↔ P .lower ∧ P .upper :=
  ⟨fun h => ⟨h .lower, h .upper⟩, fun h side => by cases side; exacts [h.1, h.2]⟩

/-- A side without a bound is closed where it leaves room on the other. -/
theorem closeIntegers_room {lo? hi? : Option Int} (hlo : ∀ n ∈ lo?, n.natAbs ≤ 2 ^ 53 + 1)
    (hhi : ∀ n ∈ hi?, n.natAbs ≤ 2 ^ 53 + 1) (hopen : lo? = none ∨ hi? = none) :
    (closeIntegers lo? hi?).1 ≤ (closeIntegers lo? hi?).2 := by
  unfold closeIntegers saturate openBound int64Min int64Max
  cases lo? with
  | none =>
      cases hi? with
      | none => decide
      | some hi =>
          have hhi := hhi hi rfl
          dsimp only
          split <;> simp <;> omega
  | some lo =>
      obtain rfl : hi? = none := hopen.resolve_left (by simp)
      have hlo := hlo lo rfl
      dsimp only
      split <;> simp <;> omega

theorem closeIntegers_fst {lo : Int} (hi? : Option Int) : (closeIntegers (some lo) hi?).1 = lo := by
  unfold closeIntegers
  cases hi? with
  | some hi => rfl
  | none => dsimp only; split <;> rfl

theorem closeIntegers_snd {hi : Int} (lo? : Option Int) : (closeIntegers lo? (some hi)).2 = hi := by
  unfold closeIntegers
  cases lo? with
  | some lo => rfl
  | none => dsimp only; split <;> rfl

/-- The two ends of the range before it is looked at whether they are in order. -/
structure HasEnds (node : Node) (lo hi : Int) : Prop where
  lower : node.IsBounded .lower → ∀ n : Int, node.Admits .lower n ↔ lo ≤ n
  upper : node.IsBounded .upper → ∀ n : Int, node.Admits .upper n ↔ n ≤ hi
  unbounded : ∀ side, ¬ node.IsBounded side → ∀ q, node.Admits side q
  room : ∀ side, ¬ node.IsBounded side → lo ≤ hi

theorem hasEnds (h : node.HasModestBounds) :
    node.HasEnds
      (closeIntegers ((node.bound? .lower).map leastInteger)
        ((node.bound? .upper).map greatestInteger)).1
      (closeIntegers ((node.bound? .lower).map leastInteger)
        ((node.bound? .upper).map greatestInteger)).2 := by
  rcases leastInteger_cases h with ⟨hopen, hnone, hall⟩ | ⟨hbounded, lo, hsome, hsmall, hlo⟩ <;>
    rcases greatestInteger_cases h with
      ⟨hopen', hnone', hall'⟩ | ⟨hbounded', hi, hsome', hsmall', hhi⟩
  · rw [hnone, hnone']
    refine ⟨fun hb => absurd hb hopen, fun hb => absurd hb hopen', ?_, fun _ _ => ?_⟩
    · rintro (_ | _) -
      exacts [hall, hall']
    · exact closeIntegers_room nofun nofun (.inl rfl)
  · rw [hnone, hsome', closeIntegers_snd]
    refine ⟨fun hb => absurd hb hopen, fun _ => hhi, ?_, fun _ _ => ?_⟩
    · rintro (_ | _) hside
      exacts [hall, absurd hbounded' hside]
    · have hroom : (closeIntegers none (some hi)).1 ≤ (closeIntegers none (some hi)).2 :=
        closeIntegers_room nofun (by simpa) (.inl rfl)
      rwa [closeIntegers_snd] at hroom
  · rw [hsome, hnone', closeIntegers_fst]
    refine ⟨fun _ => hlo, fun hb => absurd hb hopen', ?_, fun _ _ => ?_⟩
    · rintro (_ | _) hside
      exacts [absurd hbounded hside, hall']
    · have hroom : (closeIntegers (some lo) none).1 ≤ (closeIntegers (some lo) none).2 :=
        closeIntegers_room (by simpa) nofun (.inr rfl)
      rwa [closeIntegers_fst] at hroom
  · rw [hsome, hsome', closeIntegers_fst, closeIntegers_snd]
    refine ⟨fun _ => hlo, fun _ => hhi, ?_, ?_⟩
    · rintro (_ | _) hside
      exacts [absurd hbounded hside, absurd hbounded' hside]
    · rintro (_ | _) hside
      exacts [absurd hbounded hside, absurd hbounded' hside]

variable {lo hi : Int}

/-- An integer keeps the bounds of a side if it lies on the inner side of the end there. -/
theorem HasEnds.admits (h : node.HasEnds lo hi) {n : Int} (hlo : lo ≤ n) (hhi : n ≤ hi)
    (side : Side) : node.Admits side n := by
  by_cases hbounded : node.IsBounded side
  · cases side with
    | lower => exact (h.lower hbounded n).mpr hlo
    | upper => exact (h.upper hbounded n).mpr hhi
  · exact h.unbounded side hbounded n

theorem HasEnds.isExactRange (h : node.HasEnds lo hi) (hle : lo ≤ hi) : node.IsExactRange lo hi where
  nonempty := hle
  admitted _ := h.admits
  least hbounded :=
    ⟨(h.lower hbounded lo).mpr le_rfl, fun n hn => (h.lower hbounded n).mp hn⟩
  greatest hbounded :=
    ⟨(h.upper hbounded hi).mpr le_rfl, fun n hn => (h.upper hbounded n).mp hn⟩
  all hbounded n := by
    rw [forall_side, h.lower (hbounded .lower), h.upper (hbounded .upper)]

/-- The ends are out of order just if both sides have a bound and no integer keeps both. -/
theorem HasEnds.lt_iff (h : node.HasEnds lo hi) :
    hi < lo ↔ (∀ side, node.IsBounded side) ∧ ∀ n : Int, ¬ ∀ side, node.Admits side n := by
  constructor
  · intro hlt
    have hbounded (side : Side) : node.IsBounded side := by
      by_contra hopen
      exact absurd (h.room side hopen) (not_le.mpr hlt)
    refine ⟨hbounded, fun n hn => ?_⟩
    have hlo := (h.lower (hbounded .lower) n).mp (hn .lower)
    have hhi := (h.upper (hbounded .upper) n).mp (hn .upper)
    omega
  · rintro ⟨-, hnone⟩
    by_contra hge
    exact hnone lo fun side => h.admits le_rfl (not_lt.mp hge) side

/-- The range of integers of a node with modest bounds is exact, and it is refused just if
both sides have a bound and no integer keeps both. -/
theorem integerRange_exact (h : node.HasModestBounds) :
    (∀ lo hi, node.integerRange = .ok (lo, hi) → node.IsExactRange lo hi)
      ∧ ((∃ e, node.integerRange = .error e) ↔
        (∀ side, node.IsBounded side) ∧ ∀ n : Int, ¬ ∀ side, node.Admits side n) := by
  have hends := hasEnds h
  rw [← hends.lt_iff]
  unfold integerRange
  dsimp only
  split
  · next hlt => exact ⟨nofun, fun _ => hlt, fun _ => ⟨_, rfl⟩⟩
  · next hge =>
      refine ⟨fun lo hi heq => ?_, ?_, fun hlt => absurd hlt hge⟩
      · cases heq
        exact hends.isExactRange (not_lt.mp hge)
      · rintro ⟨e, ⟨⟩⟩

/-- Bounds of both kinds on both sides, some of them with a fraction. -/
def halves : Node :=
  ⟨[("exclusiveMaximum", .number (.float ⟨0x4012000000000000⟩)), ("exclusiveMinimum", .bool true),
    ("maximum", .number (.int 9)), ("minimum", .number (.float ⟨0x3FF8000000000000⟩))]⟩

theorem integerRange_exact_halves :
    halves.HasModestBounds ∧ halves.integerRange = .ok (2, 4) ∧ halves.IsExactRange 2 4 := by
  have hmodest : halves.HasModestBounds := by
    constructor
    · rintro (_ | _) value hvalue
      · exact ⟨_, (Option.some.inj hvalue).symm, by decide +kernel, by decide +kernel⟩
      · exact ⟨_, (Option.some.inj hvalue).symm, (by decide : (9 : Int).natAbs ≤ 2 ^ 53)⟩
    · rintro (_ | _) value hvalue
      · exact .inl ⟨_, (Option.some.inj hvalue).symm⟩
      · exact .inr ⟨_, (Option.some.inj hvalue).symm, by decide +kernel, by decide +kernel⟩
  have hrange : halves.integerRange = .ok (2, 4) := by
    have hsome : halves.integerRange.toOption = some (2, 4) := by decide +kernel
    cases hread : halves.integerRange with
    | error e => rw [hread] at hsome; cases hsome
    | ok range => rw [hread] at hsome; cases hsome; rfl
  exact ⟨hmodest, hrange, (integerRange_exact hmodest).1 2 4 hrange⟩

end Node

end Specimen
