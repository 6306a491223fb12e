import Mathlib.Algebra.Group.Int.Defs
import Mathlib.Data.Set.Defs
import Specimen.Proofs.Random.Words
import Specimen.Random.Scripted

/-!
# Integer ranges, in numbers and in words

An integer and a count are drawn here from a range whose width, zone and offset are
numbers of any size. A machine has only words for them: the width of all 64-bit integers
is zero there, the ends of a range are read modulo `2 ^ 64`, and so is the sum of the lower
end and an offset. `wrappedFrom` is the draw in that arithmetic, and it is the same draw
(`intBetween_eq_wrapped`, `countBetween_eq_wrapped`): where the width wraps the draw goes its
own way, and nothing else of it leaves the words.

Of both draws it is said what they cover (`Covers`): the values that some source gives are
those from one end to the other, both included.
-/

namespace Specimen.Draw

variable {σ ε α : Type}

/-! ## Arithmetic of words -/

/-- The high word of a product. -/
def highWord (v w : UInt64) : UInt64 := .ofNat (v.toNat * w.toNat / 2 ^ 64)

/-- How many bits are clear above the highest that is set. -/
def leadingZeros (w : UInt64) : UInt64 := .ofNat (63 - w.toNat.log2)

/-- The greatest low word that is accepted. -/
def wrappedZone (width : UInt64) : UInt64 := (width <<< leadingZeros width) - 1

theorem toNat_highWord (v w : UInt64) : (highWord v w).toNat = v.toNat * w.toNat / 2 ^ 64 := by
  have hlt : v.toNat * w.toNat / 2 ^ 64 < 2 ^ 64 :=
    Nat.div_lt_of_lt_mul (Nat.mul_lt_mul'' v.toNat_lt w.toNat_lt)
  exact UInt64.toNat_ofNat_of_lt' hlt

/-- A high word lies below both factors. -/
theorem highWord_lt (v : UInt64) {width : UInt64} (hwidth : width ≠ 0) :
    (highWord v width).toNat < width.toNat := by
  have hpos : 0 < width.toNat := Nat.pos_of_ne_zero fun h => hwidth (UInt64.toNat_inj.mp h)
  rw [toNat_highWord]
  exact Nat.div_lt_of_lt_mul (Nat.mul_lt_mul_of_pos_right v.toNat_lt hpos)

/-- Shifting a word until its highest bit is set loses nothing. -/
theorem toNat_wrappedZone {width : UInt64} (hwidth : width ≠ 0) :
    (wrappedZone width).toNat = zone 64 width.toNat := by
  have hne : width.toNat ≠ 0 := fun h => hwidth (UInt64.toNat_inj.mp h)
  have hlog : width.toNat.log2 < 64 := (Nat.log2_lt hne).mpr width.toNat_lt
  have hshift : (leadingZeros width).toNat = 63 - width.toNat.log2 :=
    UInt64.toNat_ofNat_of_lt' (Nat.lt_of_le_of_lt (Nat.sub_le ..) (by decide))
  have hfits : width.toNat <<< (63 - width.toNat.log2) < 2 ^ 64 := by
    rw [Nat.shiftLeft_eq]
    calc width.toNat * 2 ^ (63 - width.toNat.log2)
        < 2 ^ (width.toNat.log2 + 1) * 2 ^ (63 - width.toNat.log2) :=
          Nat.mul_lt_mul_of_pos_right Nat.lt_log2_self (Nat.two_pow_pos _)
      _ = 2 ^ 64 := by rw [← Nat.pow_add]; congr 1; omega
  have hshifted : (width <<< leadingZeros width).toNat
      = width.toNat <<< (63 - width.toNat.log2) := by
    rw [UInt64.toNat_shiftLeft, hshift, Nat.mod_eq_of_lt (a := 63 - width.toNat.log2) (by omega),
      Nat.mod_eq_of_lt hfits]
  have hle : 1 ≤ width <<< leadingZeros width := by
    rw [UInt64.le_iff_toNat_le, hshifted, Nat.shiftLeft_eq]
    exact Nat.mul_pos (Nat.pos_of_ne_zero hne) (Nat.two_pow_pos _)
  rw [wrappedZone, UInt64.toNat_sub_of_le _ _ hle, hshifted]
  rfl

/-- A word read as a signed integer. -/
theorem toInt_word (w : UInt64) :
    w.toInt64.toInt = if 2 * w.toNat < 2 ^ 64 then (w.toNat : Int) else w.toNat - 2 ^ 64 :=
  BitVec.toInt_eq_toNat_cond _

/-! ## Draws of words -/

theorem bind_congr {β : Type} (x : Draw σ ε β) {f g : β → Draw σ ε α} (h : ∀ b, f b = g b) :
    x >>= f = x >>= g := congrArg (x >>= ·) (funext h)

variable [Source σ]

/-- The next word of a source. -/
def nextWord : Draw σ ε UInt64 := fun _ s => (.ok (Source.next64 s).1, (Source.next64 s).2)

/-- Takes words until the low word of the product of one with a width is accepted; gives the
high word. -/
def wrappedRedraw (width : UInt64) : Nat → Draw σ ε UInt64
  | 0 => endless
  | tries + 1 => do
    let w ← nextWord
    if w * width ≤ wrappedZone width then return highWord w width
    else wrappedRedraw width tries

/-- A word from `lo` to `hi`, in arithmetic that wraps around. The width of all words is
zero. -/
def wrappedFrom (lo hi : UInt64) : Draw σ ε UInt64 := do
  if hi - lo + 1 = 0 then nextWord
  else
    let offset ← wrappedRedraw (hi - lo + 1) (← limit)
    return lo + offset

/-- An integer between `a` and `b`, in arithmetic that wraps around. -/
def wrappedInt (a b : Int64) : Draw σ ε Int64 := do
  let w ← wrappedFrom (if a ≤ b then a else b).toUInt64 (if a ≤ b then b else a).toUInt64
  return w.toInt64

/-- A count between `a` and `b`, in arithmetic that wraps around. -/
def wrappedCount (a b : UInt64) : Draw σ ε UInt64 :=
  if a ≤ b then wrappedFrom a b else wrappedFrom b a

theorem word64_bind (f : Nat → Draw σ ε α) : word64 >>= f = nextWord >>= fun w => f w.toNat := rfl

/-- The two loops accept the same words and give the same numbers, which lie below the
width. -/
theorem redraw_bind_eq {width : UInt64} (hwidth : width ≠ 0) {f : Nat → Draw σ ε α}
    {g : UInt64 → Draw σ ε α} (hfg : ∀ k : UInt64, k.toNat < width.toNat → f k.toNat = g k) :
    ∀ tries, redraw 64 width.toNat (fun low => low ≤ zone 64 width.toNat) word64 tries >>= f
      = wrappedRedraw width tries >>= g
  | 0 => rfl
  | tries + 1 => by
      unfold redraw wrappedRedraw
      rw [word64_bind, bind_assoc, bind_assoc]
      refine bind_congr nextWord fun w => ?_
      have haccept : w.toNat * width.toNat % (1 <<< 64) ≤ zone 64 width.toNat
          ↔ w * width ≤ wrappedZone width := by
        rw [UInt64.le_iff_toNat_le, UInt64.toNat_mul, toNat_wrappedZone hwidth, Nat.one_shiftLeft]
      by_cases h : w * width ≤ wrappedZone width
      · rw [if_pos h, if_pos (decide_eq_true (haccept.mpr h)), Nat.one_shiftLeft,
          ← toNat_highWord]
        exact hfg _ (highWord_lt w hwidth)
      · rw [if_neg h, if_neg fun hlow => h (haccept.mp (of_decide_eq_true hlow))]
        exact redraw_bind_eq hwidth hfg tries

/-- What follows a number below a width that does not wrap to zero. -/
theorem below64_bind_eq {width : UInt64} (hwidth : width ≠ 0) {f : Nat → Draw σ ε α}
    {g : UInt64 → Draw σ ε α} (hfg : ∀ k : UInt64, k.toNat < width.toNat → f k.toNat = g k) :
    below64 width.toNat >>= f = (do g (← wrappedRedraw width (← limit))) := by
  have hne : ¬ width.toNat = 1 <<< 64 := Nat.ne_of_lt width.toNat_lt
  unfold below64 below
  rw [if_neg hne, bind_assoc]
  exact bind_congr limit fun tries => redraw_bind_eq hwidth hfg tries

/-! ## Draws of numbers are draws of words -/

/-- The width of a range of words; that of all words is zero. -/
theorem toNat_width (lo hi : UInt64) :
    (hi - lo + 1).toNat = (2 ^ 64 - lo.toNat + hi.toNat + 1) % 2 ^ 64 := by
  rw [UInt64.toNat_add, UInt64.toNat_sub, UInt64.toNat_one, Nat.mod_add_mod]

/-- In numbers the width of a range of integers is that of the range of words, or all words. -/
theorem width_cases {lo hi : UInt64} (hle : lo.toInt64.toInt ≤ hi.toInt64.toInt) :
    (hi - lo + 1 = 0 ∧ hi.toInt64.toInt - lo.toInt64.toInt + 1 = 2 ^ 64
        ∧ lo.toInt64.toInt = -2 ^ 63)
      ∨ (hi - lo + 1 ≠ 0
        ∧ hi.toInt64.toInt - lo.toInt64.toInt + 1 = ((hi - lo + 1).toNat : Int)) := by
  have hlo := lo.toNat_lt
  have hhi := hi.toNat_lt
  have hwidth := toNat_width lo hi
  rw [toInt_word, toInt_word] at *
  by_cases hzero : hi - lo + 1 = 0
  · rw [hzero, UInt64.toNat_zero] at hwidth
    refine .inl ⟨hzero, ?_⟩
    split at * <;> split at * <;> omega
  · have hne : (hi - lo + 1).toNat ≠ 0 := fun h => hzero (UInt64.toNat_inj.mp h)
    refine .inr ⟨hzero, ?_⟩
    split at * <;> split at * <;> omega

/-- A sum that is again a 64-bit integer is the sum of the words. -/
theorem toInt_add {lo k : UInt64} (hk : lo.toInt64.toInt + k.toNat < 2 ^ 63) :
    (lo + k).toInt64.toInt = lo.toInt64.toInt + k.toNat := by
  have hlo := lo.toNat_lt
  have hlt := k.toNat_lt
  rw [toInt_word, UInt64.toNat_add]
  rw [toInt_word] at *
  split at * <;> split <;> omega

theorem integerFrom_eq_wrapped {lo hi : UInt64} (hle : lo.toInt64.toInt ≤ hi.toInt64.toInt) :
    (integerFrom lo.toInt64.toInt hi.toInt64.toInt : Draw σ ε Int)
      = wrappedFrom lo hi >>= fun w => pure w.toInt64.toInt := by
  unfold integerFrom wrappedFrom
  dsimp only
  rcases width_cases hle with ⟨hzero, hwidth, -⟩ | ⟨hzero, hwidth⟩
  · rw [if_pos hzero, hwidth, if_pos (by decide), word64_bind]
    refine bind_congr nextWord fun w => congrArg pure ?_
    rw [toInt_word]
    split <;> split <;> omega
  · have hlt := (hi - lo + 1).toNat_lt
    have hoffset (k : UInt64) (hk : k.toNat < (hi - lo + 1).toNat) :
        (pure (lo.toInt64.toInt + (k.toNat : Int)) : Draw σ ε Int)
          = pure (lo + k).toInt64.toInt := by
      have := hi.toInt64.toInt_lt
      rw [toInt_add (by omega)]
    rw [if_neg hzero, hwidth, Int.toNat_natCast, if_neg (Nat.ne_of_lt hlt),
      below64_bind_eq hzero hoffset, bind_assoc]
    refine bind_congr limit fun tries => ?_
    rw [bind_assoc]
    rfl

theorem intBetween_eq_wrapped (a b : Int64) :
    (intBetween a.toInt b.toInt : Draw σ ε Int)
      = wrappedInt a b >>= fun n => pure n.toInt := by
  unfold intBetween wrappedInt
  rw [bind_assoc]
  by_cases h : a ≤ b
  · have hle := Int64.le_iff_toInt_le.mp h
    rw [if_pos hle, if_pos h, if_pos h]
    exact integerFrom_eq_wrapped hle
  · have hlt : ¬ a.toInt ≤ b.toInt := fun hle => h (Int64.le_iff_toInt_le.mpr hle)
    rw [if_neg hlt, if_neg h, if_neg h]
    exact integerFrom_eq_wrapped (Int.le_of_lt (Int.not_le.mp hlt))

theorem countFrom_eq_wrapped {lo hi : UInt64} (hle : lo.toNat ≤ hi.toNat) :
    (do let offset ← below64 (hi.toNat - lo.toNat + 1); return lo.toNat + offset : Draw σ ε Nat)
      = wrappedFrom lo hi >>= fun w => pure w.toNat := by
  have hlt := hi.toNat_lt
  have hwidth := toNat_width lo hi
  unfold wrappedFrom
  by_cases hzero : hi - lo + 1 = 0
  · rw [hzero, UInt64.toNat_zero] at hwidth
    have hall : hi.toNat - lo.toNat + 1 = 1 <<< 64 := by rw [Nat.one_shiftLeft]; omega
    have hlo : lo.toNat = 0 := by omega
    rw [if_pos hzero, hlo, below64, below, if_pos (hlo ▸ hall), word64_bind]
    exact bind_congr nextWord fun w => congrArg pure (Nat.zero_add _)
  · have hne : (hi - lo + 1).toNat ≠ 0 := fun h => hzero (UInt64.toNat_inj.mp h)
    have hoffset (k : UInt64) (hk : k.toNat < (hi - lo + 1).toNat) :
        (pure (lo.toNat + k.toNat) : Draw σ ε Nat) = pure (lo + k).toNat := by
      rw [UInt64.toNat_add, Nat.mod_eq_of_lt (by omega)]
    rw [if_neg hzero, show hi.toNat - lo.toNat + 1 = (hi - lo + 1).toNat by omega,
      below64_bind_eq hzero hoffset, bind_assoc]
    refine bind_congr limit fun tries => ?_
    rw [bind_assoc]
    rfl

theorem countBetween_eq_wrapped (a b : UInt64) :
    (countBetween a.toNat b.toNat : Draw σ ε Nat)
      = wrappedCount a b >>= fun n => pure n.toNat := by
  unfold countBetween wrappedCount
  by_cases h : a ≤ b
  · have hle := UInt64.le_iff_toNat_le.mp h
    rw [if_pos h, Nat.max_eq_right hle, Nat.min_eq_left hle]
    exact countFrom_eq_wrapped hle
  · have hle : b.toNat ≤ a.toNat :=
      Nat.le_of_not_le fun hle => h (UInt64.le_iff_toNat_le.mpr hle)
    rw [if_neg h, Nat.max_eq_left hle, Nat.min_eq_right hle]
    exact countFrom_eq_wrapped hle

/-! ## What ranges cover -/

theorem intBetween_progress (a b : Int) (limit : Nat) (src : σ) :
    (∃ n rest, (intBetween a b : Draw σ ε Int).run limit src = (.ok n, rest))
      ∨ RefusesAll (max a b - min a b + 1).toNat limit src ∧ ∃ rest,
        (intBetween a b : Draw σ ε Int).run limit src = (.error .endless, rest) := by
  unfold intBetween
  by_cases h : a ≤ b
  · rw [if_pos h, Int.max_eq_right h, Int.min_eq_left h]
    exact integerFrom_progress a b limit src
  · have hle : b ≤ a := Int.le_of_lt (Int.not_le.mp h)
    rw [if_neg h, Int.max_eq_left hle, Int.min_eq_right hle]
    exact integerFrom_progress b a limit src

theorem intBetween_reaches {a b n : Int} (hn : min a b ≤ n ∧ n ≤ max a b)
    (ha : int64Min ≤ a ∧ a ≤ int64Max) (hb : int64Min ≤ b ∧ b ≤ int64Max) :
    ∃ w : UInt64, ∀ {limit : Nat}, 0 < limit → ∀ src : σ, (Source.next64 src).1 = w →
      (intBetween a b : Draw σ ε Int).run limit src = (.ok n, (Source.next64 src).2) := by
  unfold intBetween
  split
  · exact integerFrom_reaches (by omega) (by omega) ha.1 hb.2
  · exact integerFrom_reaches (by omega) (by omega) hb.1 ha.2

theorem countBetween_progress (a b limit : Nat) (src : σ) :
    (∃ n rest, (countBetween a b : Draw σ ε Nat).run limit src = (.ok n, rest))
      ∨ RefusesAll (max a b - min a b + 1) limit src ∧ ∃ rest,
        (countBetween a b : Draw σ ε Nat).run limit src = (.error .endless, rest) := by
  rcases below64_progress (ε := ε) (max a b - min a b + 1) limit src with
    ⟨k, rest, hrun⟩ | ⟨hrefused, rest, hrun⟩
  · exact .inl ⟨_, rest, run_bind_of_ok hrun⟩
  · exact .inr ⟨hrefused, rest, run_bind_of_error hrun⟩

theorem countBetween_reaches {a b n : Nat} (hn : min a b ≤ n ∧ n ≤ max a b) (ha : a < 2 ^ 64)
    (hb : b < 2 ^ 64) :
    ∃ w : UInt64, ∀ {limit : Nat}, 0 < limit → ∀ src : σ, (Source.next64 src).1 = w →
      (countBetween a b : Draw σ ε Nat).run limit src = (.ok n, (Source.next64 src).2) := by
  obtain ⟨w, hw⟩ := below64_reaches (σ := σ) (ε := ε) (n := max a b - min a b + 1)
    (k := n - min a b) (by omega) (by omega)
  refine ⟨w, fun {limit} hlimit src hword => ?_⟩
  unfold countBetween
  rw [run_bind_of_ok (hw hlimit src hword), run_pure, Nat.add_sub_cancel' hn.1]

omit [Source σ]

/-- The values that a draw ends with, over all sources. -/
def outcomes (x : ∀ {σ : Type} [Source σ], Draw σ ε α) : Set α :=
  {a | ∃ (σ : Type) (_ : Source σ) (limit : Nat) (src rest : σ),
    (x : Draw σ ε α).run limit src = (.ok a, rest)}

/-- A draw covers the closed range from `lo` to `hi`, and `wrapped` is the same draw made with
words alone. -/
structure CoversRange [LE α] (x wrapped : ∀ {σ : Type} [Source σ], Draw σ ε α) (lo hi : α)
    (width : Nat) : Prop where
  /-- The values are those of the range and no others. -/
  values : outcomes x = {a | lo ≤ a ∧ a ≤ hi}
  /-- There is a value unless every word is refused that the draw may take. -/
  progress : ∀ {σ : Type} [Source σ] (limit : Nat) (src : σ),
    (∃ a rest, (x : Draw σ ε α).run limit src = (.ok a, rest))
      ∨ RefusesAll width limit src ∧ ∃ rest,
        (x : Draw σ ε α).run limit src = (.error .endless, rest)
  /-- Each value has a first word that gives it at once. -/
  first : ∀ a, lo ≤ a ∧ a ≤ hi → ∀ {σ : Type} [Source σ], ∃ w : UInt64, ∀ {limit : Nat},
    0 < limit → ∀ src : σ, (Source.next64 src).1 = w →
      (x : Draw σ ε α).run limit src = (.ok a, (Source.next64 src).2)
  wraps : ∀ {σ : Type} [Source σ], (x : Draw σ ε α) = wrapped

/-- Some scripted source begins with any given word, so a value that has a first word is an
outcome. -/
theorem outcomes_eq [LE α] {x : ∀ {σ : Type} [Source σ], Draw σ ε α} {lo hi : α}
    (hends : ∀ {σ : Type} [Source σ],
      Ensures (x : Draw σ ε α) (fun a => lo ≤ a ∧ a ≤ hi) fun _ => False)
    (hfirst : ∀ a, lo ≤ a ∧ a ≤ hi → ∃ w : UInt64, ∀ {limit : Nat}, 0 < limit →
      ∀ src : Scripted, (Source.next64 src).1 = w →
        (x : Draw Scripted ε α).run limit src = (.ok a, (Source.next64 src).2)) :
    outcomes x = {a | lo ≤ a ∧ a ≤ hi} := by
  refine Set.ext fun a => ⟨?_, fun ha => ?_⟩
  · rintro ⟨σ, source, limit, src, rest, hrun⟩
    exact hends.value hrun
  · obtain ⟨w, hw⟩ := hfirst a ha
    exact ⟨Scripted, inferInstance, 1, ⟨[w], 0⟩, _, hw Nat.one_pos ⟨[w], 0⟩ rfl⟩

/-- An integer and a count are drawn from all of their range and from nothing else, whatever
the ends are and in whichever order they stand. -/
theorem between_covers (ε : Type) :
    (∀ a b : Int64, CoversRange (ε := ε) (intBetween a.toInt b.toInt)
        (wrappedInt a b >>= fun n => pure n.toInt) (min a.toInt b.toInt) (max a.toInt b.toInt)
        (max a.toInt b.toInt - min a.toInt b.toInt + 1).toNat)
      ∧ ∀ a b : UInt64, CoversRange (ε := ε) (countBetween a.toNat b.toNat)
        (wrappedCount a b >>= fun n => pure n.toNat) (min a.toNat b.toNat)
        (max a.toNat b.toNat) (max a.toNat b.toNat - min a.toNat b.toNat + 1) := by
  refine ⟨fun a b => ?_, fun a b => ?_⟩
  · have within (n : Int64) : int64Min ≤ n.toInt ∧ n.toInt ≤ int64Max :=
      ⟨n.le_toInt, Int.le_of_lt_add_one n.toInt_lt⟩
    exact {
      values := outcomes_eq (intBetween_ensures (within a) (within b)) fun n hn =>
        intBetween_reaches hn (within a) (within b)
      progress := intBetween_progress a.toInt b.toInt
      first := fun n hn => intBetween_reaches hn (within a) (within b)
      wraps := intBetween_eq_wrapped a b }
  · exact {
      values := outcomes_eq (countBetween_ensures a.toNat b.toNat) fun n hn =>
        countBetween_reaches hn a.toNat_lt b.toNat_lt
      progress := countBetween_progress a.toNat b.toNat
      first := fun n hn => countBetween_reaches hn a.toNat_lt b.toNat_lt
      wraps := countBetween_eq_wrapped a b }

end Specimen.Draw
