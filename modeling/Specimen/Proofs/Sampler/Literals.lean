import Specimen.Proofs.Double.Rounding
import Specimen.Proofs.Random.Words
import Specimen.Proofs.Sampler.Kinds

/-!
# Integers between literal bounds

A literal bound is read as a floating-point number before the range of integers is made
from it. So the range is the one between the *rounded* literals: a literal of at most 53
digits is its own bound, a longer one can move by up to 512 (`boundLiteral_near`), and an
integer can then be drawn beyond the literal that was to bound it
(`sampleWithin_beyond_literals`).

The draw from the range never fails. It goes on only as long as the words of the source are
refused, which is told here by the words alone (`Draw.redraw_progress`).
-/

namespace Specimen

/-! ## Literals as bounds -/

open Double

/-- The bound that an integer literal is read as. -/
def boundLiteral (n : Int) : Int := (ofInt n).toInt64

theorem toInt64_of_isInt {x : Double} {n : Int} (h : IsInt x n) : x.toInt64 = saturate n :=
  h.toIntClamped int64Min int64Max

/-- Every 64-bit integer is rounded to an integer. The least one is a power of two. -/
theorem isInt_ofInt64 {n : Int} (hmin : int64Min ≤ n) (hmax : n ≤ int64Max) :
    ∃ m : Int, IsInt (ofInt n) m ∧ n - 512 ≤ m ∧ m ≤ n + 512 := by
  unfold int64Min at hmin
  unfold int64Max at hmax
  rcases eq_or_lt_of_le hmin with rfl | hlt
  · exact ⟨-0x8000_0000_0000_0000, ⟨by decide +kernel, by decide +kernel⟩, by omega, by omega⟩
  · exact isInt_ofInt_near (by omega)

/-- An integral number is its own integral part, on either side. -/
theorem IsInt.ceil_eq {x : Double} {n : Int} (h : IsInt x n) : x.ceil = x := by
  unfold ceil
  rw [if_pos h.isFinite, h.toRat, Rat.ceil_intCast, ← h.toRat, ofRat_toRat h.isFinite]

theorem IsInt.floor_eq {x : Double} {n : Int} (h : IsInt x n) : x.floor = x := by
  unfold floor
  rw [if_pos h.isFinite, h.toRat, Rat.floor_intCast, ← h.toRat, ofRat_toRat h.isFinite]

variable {n n' : Int}

theorem boundLiteral_range (n : Int) : int64Min ≤ boundLiteral n ∧ boundLiteral n ≤ int64Max := by
  unfold boundLiteral toInt64 toIntClamped int64Min int64Max
  split
  · omega
  · split
    · split <;> omega
    · omega

theorem boundLiteral_near (hmin : int64Min ≤ n) (hmax : n ≤ int64Max) :
    n - 512 ≤ boundLiteral n ∧ boundLiteral n ≤ n + 512 := by
  obtain ⟨m, hint, hge, hle⟩ := isInt_ofInt64 hmin hmax
  unfold boundLiteral
  rw [toInt64_of_isInt hint]
  unfold saturate int64Min int64Max at *
  omega

theorem boundLiteral_mono (hmin : int64Min ≤ n) (hle : n ≤ n') (hmax : n' ≤ int64Max) :
    boundLiteral n ≤ boundLiteral n' := by
  obtain ⟨m, hint, -⟩ := isInt_ofInt64 hmin (hle.trans hmax)
  obtain ⟨m', hint', -⟩ := isInt_ofInt64 (hmin.trans hle) hmax
  have hkey : (ofInt n).key ≤ (ofInt n').key := key_ofRat_mono (by exact_mod_cast hle)
  have hrat : (m : Rat) ≤ m' := by
    rw [← hint.toRat, ← hint'.toRat]
    exact not_lt.mp fun hlt => absurd (key_lt_key_iff.mpr hlt) (not_lt.mpr hkey)
  have hm : m ≤ m' := by exact_mod_cast hrat
  unfold boundLiteral
  rw [toInt64_of_isInt hint, toInt64_of_isInt hint']
  unfold saturate
  omega

/-- A literal that is a floating-point number is its own bound. -/
theorem boundLiteral_of_isInt (hmin : int64Min ≤ n) (hmax : n ≤ int64Max)
    (h : IsInt (ofInt n) n) : boundLiteral n = n := by
  unfold boundLiteral
  rw [toInt64_of_isInt h]
  unfold saturate
  omega

/-! ## The range between two literals -/

/-- The fields of a schema of the integers between two literals. -/
def literalBounds (a b : Int) : Fields :=
  [("maximum", .number (.int b)), ("minimum", .number (.int a)), ("type", .string "integer")]

variable {a b : Int}

theorem integerRange_literalBounds (hmin : int64Min ≤ a) (hle : a ≤ b) (hmax : b ≤ int64Max) :
    (⟨literalBounds a b⟩ : Node).integerRange = .ok (boundLiteral a, boundLiteral b) := by
  have hlower : (⟨literalBounds a b⟩ : Node).bound? .lower = some ⟨ofInt a, false⟩ := rfl
  have hupper : (⟨literalBounds a b⟩ : Node).bound? .upper = some ⟨ofInt b, false⟩ := rfl
  obtain ⟨_, hint, -⟩ := isInt_ofInt64 hmin (hle.trans hmax)
  obtain ⟨_, hint', -⟩ := isInt_ofInt64 (hmin.trans hle) hmax
  unfold Node.integerRange
  rw [hlower, hupper]
  simp only [Option.map_some, Node.leastInteger, Node.greatestInteger, Bool.false_eq_true,
    if_false, Node.closeIntegers]
  rw [IsInt.ceil_eq hint, IsInt.floor_eq hint']
  exact if_neg (not_lt.mpr (boundLiteral_mono hmin hle hmax))

namespace Sampler

open Draw

variable {σ : Type} [Source σ]

/-! ## Samples -/

/-- An integer that keeps two bounds as far as they are kept: the rounded ones, thus the
literals up to 512, and each literal that is a floating-point number. -/
structure KeepsLiterals (a b n : Int) : Prop where
  rounded : boundLiteral a ≤ n ∧ n ≤ boundLiteral b
  near : a - 512 ≤ n ∧ n ≤ b + 512
  least : IsInt (ofInt a) a → a ≤ n
  greatest : IsInt (ofInt b) b → n ≤ b

theorem keepsLiterals (hmin : int64Min ≤ a) (hle : a ≤ b) (hmax : b ≤ int64Max)
    (h : boundLiteral a ≤ n ∧ n ≤ boundLiteral b) : KeepsLiterals a b n where
  rounded := h
  near :=
    ⟨(boundLiteral_near hmin (hle.trans hmax)).1.trans h.1,
      h.2.trans (boundLiteral_near (hmin.trans hle) hmax).2⟩
  least hint := (boundLiteral_of_isInt hmin (hle.trans hmax) hint).symm.le.trans h.1
  greatest hint := h.2.trans (boundLiteral_of_isInt (hmin.trans hle) hmax hint).le

theorem integer_literalBounds (s : Sampler) (hmin : int64Min ≤ a) (hle : a ≤ b)
    (hmax : b ≤ int64Max) (limit : Nat) (src : σ) :
    (∃ n rest, (s.integer ⟨literalBounds a b⟩ : Draw σ SchemaError Json).run limit src
        = (.ok (.number (.int n)), rest) ∧ KeepsLiterals a b n)
      ∨ RefusesAll (boundLiteral b - boundLiteral a + 1).toNat limit src ∧ ∃ rest,
        (s.integer ⟨literalBounds a b⟩ : Draw σ SchemaError Json).run limit src
          = (.error .endless, rest) := by
  have hordered := boundLiteral_mono hmin hle hmax
  have hfactors : s.drawsFactors ⟨literalBounds a b⟩ = false := by
    unfold drawsFactors
    rw [show (⟨literalBounds a b⟩ : Node).has "multipleOf" = false from rfl, Bool.and_false]
  have hdraw : (s.integer ⟨literalBounds a b⟩ : Draw σ SchemaError Json)
      = integerFrom (boundLiteral a) (boundLiteral b) >>= fun n =>
        ofExcept (scaled n (ofInt 1)) := by
    unfold integer
    rw [integerRange_literalBounds hmin hle hmax, hfactors]
    show (intBetween (boundLiteral a) (boundLiteral b) >>= _) = _
    unfold intBetween
    rw [if_pos hordered]
    rfl
  have hrange : Ensures (integerFrom (boundLiteral a) (boundLiteral b) : Draw σ SchemaError Int)
      (fun n => boundLiteral a ≤ n ∧ n ≤ boundLiteral b) fun _ => False :=
    integerFrom_ensures hordered (boundLiteral_range a).1 (boundLiteral_range b).2
  rw [hdraw]
  rcases integerFrom_progress (ε := SchemaError) (boundLiteral a) (boundLiteral b) limit src with
    ⟨n, rest, hrun⟩ | ⟨hrefused, rest, hrun⟩
  · have hn := hrange.value hrun
    refine .inl ⟨n, rest, ?_, keepsLiterals hmin hle hmax hn⟩
    rw [run_bind_of_ok hrun, scaled_one ⟨(boundLiteral_range a).1.trans hn.1,
      hn.2.trans (boundLiteral_range b).2⟩]
    rfl
  · exact .inr ⟨hrefused, rest, run_bind_of_error hrun⟩

/-- A sample of a schema of the integers between two literals is an integer between the
rounded literals, unless the source gives nothing but words that are refused. -/
theorem sampleWithin_literalBounds (hmin : int64Min ≤ a) (hle : a ≤ b) (hmax : b ≤ int64Max)
    (s : Sampler) (parent : Option Json) {limit : Nat} (hlimit : 0 < limit) (src : σ) :
    (∃ n rest, (s.sampleWithin (.object (literalBounds a b)) parent).run limit src
        = (.ok (.number (.int n)), rest) ∧ KeepsLiterals a b n)
      ∨ RefusesAll (boundLiteral b - boundLiteral a + 1).toNat limit src ∧ ∃ rest,
        (s.sampleWithin (.object (literalBounds a b)) parent).run limit src
          = (.error .endless, rest) := by
  obtain ⟨depth, rfl⟩ : ∃ depth, limit = depth + 1 := ⟨limit - 1, by omega⟩
  have hstep : (s.sampleWithin (.object (literalBounds a b)) parent).run (depth + 1) src
      = (s.integer ⟨literalBounds a b⟩ : Draw σ SchemaError Json).run (depth + 1) src := rfl
  rw [hstep]
  exact integer_literalBounds s hmin hle hmax (depth + 1) src

/-- A source whose first word is zero is not refused; the upper literal has 54 digits. -/
theorem sampleWithin_literalBounds_zero :
    int64Min ≤ 9007199254740991 ∧ 9007199254740991 ≤ (9007199254740995 : Int)
      ∧ 9007199254740995 ≤ int64Max
      ∧ ∃ (n : Int) (rest : Scripted), (sampleWithin ⟨{}, ⟨"."⟩, DocumentTable.empty.toLoader⟩
          (.object (literalBounds 9007199254740991 9007199254740995)) none).run 1 ⟨[0], 0⟩
          = (.ok (.number (.int n)), rest)
        ∧ KeepsLiterals 9007199254740991 9007199254740995 n := by
  refine ⟨by decide, by decide, by decide, ?_⟩
  refine (sampleWithin_literalBounds (by decide) (by decide) (by decide) _ none Nat.one_pos
    _).resolve_right fun ⟨hrefused, _⟩ => ?_
  have hzero : 0 ∈ nextWords 1 (⟨[0], 0⟩ : Scripted) := List.mem_cons_self
  have hlt := hrefused 0 hzero
  omega

/-- A literal of 54 digits is both bounds, and the sample is the integer before it. -/
theorem sampleWithin_beyond_literals :
    ∃ (a b n : Int) (rest : Scripted), int64Min ≤ a ∧ a ≤ b ∧ b ≤ int64Max
      ∧ (sampleWithin ⟨{}, ⟨"."⟩, DocumentTable.empty.toLoader⟩ (.object (literalBounds a b))
          none).run 1 ⟨[0], 0⟩ = (.ok (.number (.int n)), rest)
      ∧ ¬ (a ≤ n ∧ n ≤ b) :=
  ⟨9007199254740993, 9007199254740993, 9007199254740992, _, by decide, by decide, by decide,
    run_of_number (by decide +kernel), by decide⟩

end Sampler

end Specimen
