import Specimen.Proofs.Random.Words
import Specimen.Proofs.Sampler.Kinds
import Specimen.Proofs.Schema.Multiples

/-!
# Exact multiples

A sampler that draws factors gives an integer node the multiples of its step, and only those
in its range: the factor comes from the range of factors, which is exact for integral bounds
and an integral step, and the product is an integer as it has 64 bits. If there is no multiple
in the range the node is refused before a word is taken. Otherwise a draw goes on as long as
words are refused, and for each multiple there is a word that leads to it (`integer_strict`).
-/

namespace Specimen

open Double

/-- A multiple of `m` from `lo` to `hi`. -/
structure IsMultipleIn (m lo hi n : Int) : Prop where
  dvd : m ∣ n
  least : lo ≤ n
  greatest : n ≤ hi

section Multiples

variable {m lo hi n k : Int}

theorem isMultipleIn_mul (hm : 0 < m) :
    IsMultipleIn m lo hi (k * m) ↔ -(-lo / m) ≤ k ∧ k ≤ hi / m := by
  rw [between_factors_iff hm]
  exact ⟨fun h => ⟨h.least, h.greatest⟩, fun h => ⟨⟨k, Int.mul_comm k m⟩, h.1, h.2⟩⟩

theorem exists_isMultipleIn_iff (hm : 0 < m) :
    (∃ n, IsMultipleIn m lo hi n) ↔ -(-lo / m) ≤ hi / m := by
  constructor
  · rintro ⟨n, hn⟩
    obtain ⟨k, rfl⟩ := hn.dvd
    rw [Int.mul_comm, isMultipleIn_mul hm] at hn
    exact hn.1.trans hn.2
  · intro hle
    exact ⟨hi / m * m, (isMultipleIn_mul hm).mpr ⟨hle, le_rfl⟩⟩

end Multiples

namespace Sampler

open Draw

variable {σ : Type} [Source σ] {s : Sampler} {node : Node} {m lo hi : Int}

/-! ## Integer nodes -/

/-- A node of type integer, with none of the keywords that come before the type, is sampled
as an integer. -/
theorem sampleWithin_integer (s : Sampler)
    (habsent : ∀ keyword ∈ keywordsBeforeType, node.value? keyword = none)
    (htype : node.value? "type" = some (.string "integer")) (parent : Option Json) {limit : Nat}
    (hlimit : 0 < limit) (src : σ) :
    (s.sampleWithin node.toJson parent).run limit src = (s.integer node).run limit src := by
  obtain ⟨_, _, hrun⟩ := sampleWithin_ofKind s (k := .integer) habsent htype parent hlimit src
  exact hrun

/-! ## Products -/

/-- A product with an integral step is an integer if it has 64 bits. -/
theorem scaled_of_isInt {n : Int} {step : Double} (hstep : IsInt step m) (hm : m.natAbs ≤ 2 ^ 53)
    (hmin : int64Min ≤ n * m) (hmax : n * m ≤ int64Max) :
    scaled n step = .ok (.number (.int (n * m))) := by
  have hlimit : IsInt (.ofInt 0x8000_0000_0000_0000) 0x8000_0000_0000_0000 :=
    ⟨by decide +kernel, by decide +kernel⟩
  have hsmall : step.abs < .ofInt 0x8000_0000_0000_0000 := by
    rw [lt_iff_toRat_lt hstep.abs.isFinite hlimit.isFinite, hstep.abs.toRat, hlimit.toRat,
      Int.abs_eq_natAbs]
    exact_mod_cast (by omega : (m.natAbs : Int) < 0x8000_0000_0000_0000)
  have hfits : saturate (n * m) = n * m := by
    unfold saturate
    omega
  unfold scaled
  dsimp only
  rw [hstep.toInt64 hm, if_pos ⟨hstep.isIntegral, hsmall, hfits⟩]

/-! ## Multiples of the step -/

/-- A sampler draws factors for an integer node whose bounds are integers of at most 52 digits
and whose step is the integer `m`; the range of the node goes from `lo` to `hi`. -/
structure DrawsMultiples (s : Sampler) (node : Node) (m lo hi : Int) : Prop where
  strict : s.settings.multiples = .strict
  bounds : node.HasIntegralBounds
  step : ∃ b : Number, node.value? "multipleOf" = some (.number b) ∧ b.IsInt m
  pos : 1 ≤ m
  le : m ≤ 2 ^ 53
  range : node.integerRange = .ok (lo, hi)

namespace DrawsMultiples

variable (h : DrawsMultiples s node m lo hi)

include h

theorem isInt_step : IsInt node.step m := by
  obtain ⟨b, hvalue, hb⟩ := h.step
  exact Node.step_isInt hvalue hb h.pos h.le

/-- What is drawn is a factor. -/
theorem integer_eq :
    (s.integer node : Draw σ SchemaError Json)
      = if hi / m < -(-lo / m) then
          Draw.fail (.malformed (.noMultiple node.step (.ofInt lo) (.ofInt hi)))
        else integerFrom (-(-lo / m)) (hi / m) >>= fun k => ofExcept (scaled k node.step) := by
  obtain ⟨hle, hlo, hhi⟩ := Node.integerRange_small h.bounds h.range
  have hfactors : s.drawsFactors node = true := by
    obtain ⟨b, hvalue, -⟩ := h.step
    have hget : node.fields.get? "multipleOf" = some (.number b) := hvalue
    unfold drawsFactors Node.has Fields.contains
    simp [h.strict, hget]
  unfold integer
  rw [h.range, hfactors]
  show (ofExcept (factorRange (.ofInt lo) (.ofInt hi) node.step) >>= fun range =>
    intBetween range.1 range.2 >>= fun k => ofExcept (scaled k node.step)) = _
  rw [factorRange_eq hlo hhi h.isInt_step h.pos h.le]
  split
  · rfl
  · next hge =>
      show (intBetween (-(-lo / m)) (hi / m) >>= _) = _
      unfold intBetween
      rw [if_pos (Int.not_lt.mp hge)]

/-- The product of a factor in its range. -/
theorem scaled_eq {k : Int} (hk : -(-lo / m) ≤ k ∧ k ≤ hi / m) :
    scaled k node.step = .ok (.number (.int (k * m))) := by
  have hmultiple : IsMultipleIn m lo hi (k * m) := (isMultipleIn_mul h.pos).mpr hk
  obtain ⟨-, hlo, hhi⟩ := Node.integerRange_small h.bounds h.range
  have hpos := h.pos
  have hle := h.le
  apply scaled_of_isInt h.isInt_step (by omega)
  · have := hmultiple.least
    unfold int64Min
    omega
  · have := hmultiple.greatest
    unfold int64Max
    omega

/-- The ends of the range of factors have 64 bits. -/
theorem factors_range : int64Min ≤ -(-lo / m) ∧ hi / m ≤ int64Max := by
  obtain ⟨-, hlo, hhi⟩ := Node.integerRange_small h.bounds h.range
  have := Int.natAbs_ediv_le_natAbs (-lo) m
  have := Int.natAbs_ediv_le_natAbs hi m
  unfold int64Min int64Max
  omega

/-- With a multiple in the range one is drawn, unless the words are refused. -/
theorem integer_draws (hsome : -(-lo / m) ≤ hi / m) (limit : Nat) (src : σ) :
    (∃ n rest, (s.integer node).run limit src = (.ok (.number (.int n)), rest)
        ∧ IsMultipleIn m lo hi n)
      ∨ RefusesAll (hi / m + -lo / m + 1).toNat limit src ∧ ∃ rest,
        (s.integer node).run limit src = (.error .endless, rest) := by
  have hrange : Ensures (integerFrom (-(-lo / m)) (hi / m) : Draw σ SchemaError Int)
      (fun k => -(-lo / m) ≤ k ∧ k ≤ hi / m) fun _ => False :=
    integerFrom_ensures hsome h.factors_range.1 h.factors_range.2
  rw [h.integer_eq, if_neg (Int.not_lt.mpr hsome)]
  rcases integerFrom_progress (ε := SchemaError) (-(-lo / m)) (hi / m) limit src with
    ⟨k, rest, hrun⟩ | ⟨hrefused, rest, hrun⟩
  · have hk := hrange.value hrun
    refine .inl ⟨k * m, rest, ?_, (isMultipleIn_mul h.pos).mpr hk⟩
    rw [run_bind_of_ok hrun, h.scaled_eq hk]
    rfl
  · rw [Int.sub_neg] at hrefused
    exact .inr ⟨hrefused, rest, run_bind_of_error hrun⟩

/-- Without a multiple in the range the node is refused. -/
theorem integer_fails (hnone : hi / m < -(-lo / m)) (limit : Nat) (src : σ) :
    ∃ e, (s.integer node).run limit src = (.error (.failed e), src)
      ∧ e.category = .malformedSchema := by
  rw [h.integer_eq, if_pos hnone]
  exact ⟨_, rfl, rfl⟩

/-- For every multiple in the range there is a word that leads to it. -/
theorem integer_reaches {n : Int} (hn : IsMultipleIn m lo hi n) :
    ∃ w : UInt64, ∀ {limit : Nat}, 0 < limit → ∀ src : σ, (Source.next64 src).1 = w →
      (s.integer node).run limit src = (.ok (.number (.int n)), (Source.next64 src).2) := by
  obtain ⟨k, rfl⟩ := hn.dvd
  rw [Int.mul_comm, isMultipleIn_mul h.pos] at hn
  obtain ⟨w, hw⟩ := integerFrom_reaches (σ := σ) (ε := SchemaError) hn.1 hn.2
    h.factors_range.1 h.factors_range.2
  refine ⟨w, fun {limit} hlimit src hword => ?_⟩
  rw [h.integer_eq, if_neg (Int.not_lt.mpr (hn.1.trans hn.2)),
    run_bind_of_ok (hw hlimit src hword), h.scaled_eq hn, Int.mul_comm]
  rfl

end DrawsMultiples

/-- An integer node with an integral step is sampled by the multiples of the step in its
range, by each of them for some source, and it is refused just if there are none. -/
theorem integer_strict (h : DrawsMultiples s node m lo hi) :
    (∀ (limit : Nat) (src : σ),
      ((∃ n, IsMultipleIn m lo hi n) →
        (∃ n rest, (s.integer node).run limit src = (.ok (.number (.int n)), rest)
            ∧ IsMultipleIn m lo hi n)
          ∨ RefusesAll (hi / m + -lo / m + 1).toNat limit src ∧ ∃ rest,
            (s.integer node).run limit src = (.error .endless, rest))
      ∧ ((∀ n, ¬ IsMultipleIn m lo hi n) →
        ∃ e, (s.integer node).run limit src = (.error (.failed e), src)
          ∧ e.category = .malformedSchema))
    ∧ (∀ n, IsMultipleIn m lo hi n → ∃ src rest : Scripted, ∀ limit > 0,
        (s.integer node).run limit src = (.ok (.number (.int n)), rest))
    ∧ ∀ parent, (∀ keyword ∈ keywordsBeforeType, node.value? keyword = none) →
        node.value? "type" = some (.string "integer") → ∀ limit > 0, ∀ src : σ,
          (s.sampleWithin node.toJson parent).run limit src = (s.integer node).run limit src := by
  refine ⟨fun limit src => ⟨fun hsome => ?_, fun hnone => ?_⟩, fun n hn => ?_, ?_⟩
  · exact h.integer_draws ((exists_isMultipleIn_iff h.pos).mp hsome) limit src
  · apply h.integer_fails
    by_contra hge
    obtain ⟨n, hn⟩ := (exists_isMultipleIn_iff h.pos).mpr (Int.not_lt.mp hge)
    exact hnone n hn
  · obtain ⟨w, hw⟩ := h.integer_reaches (σ := Scripted) hn
    exact ⟨⟨[w], 0⟩, _, fun limit hlimit => hw hlimit _ rfl⟩
  · intro parent habsent htype limit hlimit src
    exact sampleWithin_integer s habsent htype parent hlimit src

/-- The multiples of three above minus nine and up to seven; the step and a bound are written
with a fraction. -/
def threes : Node :=
  ⟨[("exclusiveMinimum", .number (.int (-9))), ("maximum", .number (.float ⟨0x401C000000000000⟩)),
    ("multipleOf", .number (.float ⟨0x4008000000000000⟩)), ("type", .string "integer")]⟩

theorem integer_strict_threes :
    DrawsMultiples ⟨{ multiples := .strict }, ⟨"."⟩, DocumentTable.empty.toLoader⟩ threes 3 (-8) 7
      ∧ ∃ src rest : Scripted, ∀ limit > 0,
        (integer ⟨{ multiples := .strict }, ⟨"."⟩, DocumentTable.empty.toLoader⟩ threes).run limit src
          = (.ok (.number (.int (-6))), rest) := by
  have hbounds : threes.HasIntegralBounds := by
    rintro (_ | _) b (hb | hb)
    · cases hb
    · cases hb
      exact ⟨-9, rfl, by decide⟩
    · cases hb
      exact ⟨7, ⟨by decide +kernel, by decide +kernel⟩, by decide⟩
    · cases hb
  have hrange : threes.integerRange = .ok (-8, 7) := by
    have hsome : threes.integerRange.toOption = some (-8, 7) := by decide +kernel
    cases hread : threes.integerRange with
    | error e => rw [hread] at hsome; cases hsome
    | ok range => rw [hread] at hsome; cases hsome; rfl
  have hthrees : DrawsMultiples ⟨{ multiples := .strict }, ⟨"."⟩, DocumentTable.empty.toLoader⟩
      threes 3 (-8) 7 :=
    ⟨rfl, hbounds, ⟨_, rfl, by decide +kernel, by decide +kernel⟩, by decide, by decide, hrange⟩
  exact ⟨hthrees, (integer_strict (σ := Scripted) hthrees).2.1 (-6) ⟨by decide, by decide, by decide⟩⟩

end Sampler

end Specimen
