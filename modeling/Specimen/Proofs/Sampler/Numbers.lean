import Specimen.Proofs.Random.Doubles
import Specimen.Proofs.Sampler.Kinds
import Specimen.Proofs.Schema.NumberBounds

/-!
# Numbers keep their bounds

A number node without a step is given a finite number that is not past any of its bounds, and it
is refused just if no number keeps them all (`number_bounded`). Strict bounds are kept strictly
as long as moving them by one has an effect, which it has below `2 ^ 53`, and as long as there
is a number between them. From there on the bound itself can be drawn
(`sampleWithin_excludedMinimum`).
-/

namespace Specimen

open Double

/-- A finite number that is past no bound of a node. One that is a strict bound itself is one
that cannot be kept apart. -/
structure Node.IsNumberFor (node : Node) (x : Double) : Prop where
  finite : x.isFinite = true
  within : ∀ side, node.Keeps side false x.toRat
  strictly : ∀ side, node.Keeps side true x.toRat ∨ ∃ b, node.Reaches side b x.toRat

namespace Node

variable {node : Node} {lo hi x : Double}

theorem IsNumberRange.isNumberFor (h : node.HasFiniteBounds) (hrange : node.IsNumberRange lo hi)
    (hfinite : x.isFinite = true) (hlow : lo.toRat ≤ x.toRat) (hhigh : x.toRat ≤ hi.toRat) :
    node.IsNumberFor x where
  finite := hfinite
  within side := by
    rw [(bound?_keeps h side).2]
    intro b hb
    unfold Bound.Keeps
    rw [Bool.and_false]
    rcases hrange.kept x.toRat hlow hhigh side b hb with hkeeps | hreaches
    · exact Side.Admits.weaken hkeeps
    · rw [hreaches.reached]
      cases side <;> exact le_rfl
  strictly side := by
    rw [(bound?_keeps h side).2]
    by_cases hreaches : ∃ b, node.Reaches side b x.toRat
    · exact .inr hreaches
    · refine .inl fun b hb => ?_
      exact (hrange.kept x.toRat hlow hhigh side b hb).resolve_right fun hb' => hreaches ⟨b, hb'⟩

end Node

namespace Sampler

open Draw

variable {σ : Type} [Source σ] {s : Sampler} {node : Node}

/-- Without a step the number that is drawn from the range is the sample. -/
theorem number_stepless (hmultiple : node.value? "multipleOf" = none) :
    (s.number node : Draw σ SchemaError Json)
      = ofExcept node.numberRange >>= fun range =>
        doubleBetween range.1 range.2 >>= fun x => ofExcept (ofDouble (x * .ofInt 1)) := by
  have hlacks := Node.lacks_of_value? hmultiple
  have hfactors : s.drawsFactors node = false := by
    unfold drawsFactors
    rw [hlacks.has, Bool.and_false]
  have hstep : node.step = .ofInt 1 := by
    unfold Node.step Node.double?
    rw [hmultiple]
    rfl
  unfold number
  rw [hfactors, hstep]
  rfl

theorem ofDouble_mul_one {x : Double} (h : x.isFinite = true) :
    ofDouble (x * .ofInt 1) = .ok (.number (.float x)) := by
  unfold ofDouble
  rw [mul_one_eq h, if_pos h]

/-- A number is drawn from the range, or there is none and the source is left alone. -/
theorem number_run (hbounds : node.HasFiniteBounds) (hmultiple : node.value? "multipleOf" = none)
    (limit : Nat) (src : σ) :
    (∃ x rest, (s.number node).run limit src = (.ok (.number (.float x)), rest)
        ∧ node.IsNumberFor x)
      ∨ ∃ e, (s.number node).run limit src = (.error (.failed e), src)
        ∧ e.category = .malformedSchema ∧ ∀ q, ¬ ∀ side, node.Keeps side true q := by
  obtain ⟨hok, herror⟩ := Node.numberRange_spec hbounds
  rw [number_stepless hmultiple]
  rcases hread : node.numberRange with e | ⟨lo, hi⟩
  · exact .inr ⟨e, rfl, herror e hread⟩
  · have hrange := hok lo hi hread
    obtain ⟨x, rest, hrun⟩ := doubleBetween_run (ε := SchemaError) lo hi limit src
    obtain ⟨hfinite, hlow, hhigh⟩ := (doubleBetween_between (E := fun _ => True) hrange.lower
      hrange.upper hrange.le).value hrun
    refine .inl ⟨x, rest, ?_, hrange.isNumberFor hbounds hfinite hlow hhigh⟩
    show (doubleBetween lo hi >>= fun x => ofExcept (ofDouble (x * .ofInt 1))).run limit src = _
    rw [run_bind_of_ok hrun, ofDouble_mul_one hfinite]
    rfl

/-- A number node without a step is sampled by finite numbers that are past none of its bounds,
and it is refused only if no number keeps them. A sample can be a strict bound only where that
is `2 ^ 53` or more and moving it has no effect, or where there is no number between the
bounds. -/
theorem number_bounded (s : Sampler) {node : Node} (hbounds : node.HasFiniteBounds)
    (hmultiple : node.value? "multipleOf" = none) :
    (∀ (limit : Nat) (src : σ),
      (∃ x rest, (s.number node).run limit src = (.ok (.number (.float x)), rest)
          ∧ node.IsNumberFor x)
        ∨ ∃ e, (s.number node).run limit src = (.error (.failed e), src)
          ∧ e.category = .malformedSchema ∧ ∀ q, ¬ ∀ side, node.Keeps side true q)
      ∧ (∀ side b, node.bound? side = some b → b.IsStuck side → 2 ^ 53 ≤ |b.value.toRat|)
      ∧ ∀ parent, (∀ keyword ∈ keywordsBeforeType, node.value? keyword = none) →
        node.value? "type" = some (.string "number") → ∀ limit > 0, ∀ src : σ,
          (s.sampleWithin node.toJson parent).run limit src = (s.number node).run limit src := by
  refine ⟨number_run hbounds hmultiple, fun side b hb hstuck => ?_, ?_⟩
  · exact hstuck.le_abs ((Node.bound?_keeps hbounds side).1 b hb)
  · intro parent habsent htype limit hlimit src
    obtain ⟨_, _, hrun⟩ := sampleWithin_ofKind s (k := .number) habsent htype parent hlimit src
    exact hrun

/-- The numbers between one and two, both excluded, in either of the two ways. -/
def oneToTwo : Node :=
  ⟨[("exclusiveMaximum", .number (.int 2)), ("exclusiveMinimum", .bool true),
    ("minimum", .number (.int 1)), ("type", .string "number")]⟩

theorem number_bounded_oneToTwo :
    oneToTwo.HasFiniteBounds ∧ oneToTwo.value? "multipleOf" = none
      ∧ ∃ (x : Double) (rest : Scripted),
        (number ⟨{}, ⟨"."⟩, DocumentTable.empty.toLoader⟩ oneToTwo).run 1 ⟨[0], 0⟩
          = (.ok (.number (.float x)), rest)
        ∧ ∀ side, oneToTwo.Keeps side true x.toRat := by
  have hbounds : oneToTwo.HasFiniteBounds := by
    refine Node.hasFiniteBounds_of_all fun side => ?_
    cases side <;> decide +kernel
  have hrun : (number ⟨{}, ⟨"."⟩, DocumentTable.empty.toLoader⟩ oneToTwo).run 1
      (⟨[0], 0⟩ : Scripted) = (.ok (.number (.float ⟨0x3FF8000000000000⟩)), _) :=
    run_of_number (by decide +kernel)
  have hx : oneToTwo.IsNumberFor ⟨0x3FF8000000000000⟩ := by
    rcases (number_bounded ⟨{}, ⟨"."⟩, DocumentTable.empty.toLoader⟩ hbounds rfl).1 1
      (⟨[0], 0⟩ : Scripted) with ⟨x, _, hdrawn, hx⟩ | ⟨_, hfailed, -⟩
    · cases (Prod.mk.inj (hrun.symm.trans hdrawn)).1
      exact hx
    · cases (Prod.mk.inj (hrun.symm.trans hfailed)).1
  refine ⟨hbounds, rfl, _, _, hrun, fun side => ?_⟩
  refine (hx.strictly side).resolve_right fun ⟨b, hb⟩ => ?_
  have hvalue : (oneToTwo.bound? side).map (·.value.toRat) ≠ some (3 / 2) := by
    cases side <;> decide +kernel
  have hmiddle : (⟨0x3FF8000000000000⟩ : Double).toRat = 3 / 2 := by decide +kernel
  rw [hb.bound, Option.map_some, ← hb.reached, hmiddle] at hvalue
  exact hvalue rfl

/-- The numbers between `2 ^ 53` and `2 ^ 53 + 4`, both excluded: there is one. -/
def afterTwoPow53 : Node :=
  ⟨[("exclusiveMaximum", .number (.int 9007199254740996)),
    ("exclusiveMinimum", .number (.int 9007199254740992)), ("type", .string "number")]⟩

/-- The excluded minimum is drawn, though there is a number that keeps both bounds. -/
theorem sampleWithin_excludedMinimum :
    afterTwoPow53.HasFiniteBounds ∧ afterTwoPow53.value? "multipleOf" = none
      ∧ afterTwoPow53.value? "type" = some (.string "number")
      ∧ (∃ y : Double, y.isFinite = true ∧ ∀ side, afterTwoPow53.Keeps side true y.toRat)
      ∧ ∃ (x : Double) (rest : Scripted),
        (sampleWithin ⟨{}, ⟨"."⟩, DocumentTable.empty.toLoader⟩ afterTwoPow53.toJson none).run 1
          ⟨[0], 0⟩ = (.ok (.number (.float x)), rest)
        ∧ ¬ ∀ side, afterTwoPow53.Keeps side true x.toRat := by
  have hminimum : afterTwoPow53.double? "exclusiveMinimum" = some ⟨0x4340000000000000⟩ := by
    decide +kernel
  have hmaximum : afterTwoPow53.double? "exclusiveMaximum" = some ⟨0x4340000000000002⟩ := by
    decide +kernel
  have hlow : (⟨0x4340000000000000⟩ : Double).toRat = 2 ^ 53 := by decide +kernel
  have hmiddle : (⟨0x4340000000000001⟩ : Double).toRat = 2 ^ 53 + 2 := by decide +kernel
  have hhigh : (⟨0x4340000000000002⟩ : Double).toRat = 2 ^ 53 + 4 := by decide +kernel
  refine ⟨Node.hasFiniteBounds_of_all fun side => ?_, rfl, rfl,
    ⟨⟨0x4340000000000001⟩, by decide, fun side => ?_⟩,
    ⟨0x4340000000000000⟩, _, run_of_number (by decide +kernel), fun hkeeps => ?_⟩
  · cases side <;> decide +kernel
  · refine ⟨fun b hb => ?_, fun b hb => ?_, fun b hb => ?_⟩
    · cases side <;> cases hb
    · cases side <;> cases hb
    · rw [hmiddle]
      cases side with
      | lower =>
          obtain rfl := Option.some.inj (hminimum.symm.trans hb)
          show _ < _
          rw [hlow]
          norm_num
      | upper =>
          obtain rfl := Option.some.inj (hmaximum.symm.trans hb)
          show _ < _
          rw [hhigh]
          norm_num
  · exact lt_irrefl _ ((hkeeps .lower).strict _ hminimum)

end Sampler

end Specimen
