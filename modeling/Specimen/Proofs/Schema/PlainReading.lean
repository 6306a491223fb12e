import Specimen.Proofs.Double
import Specimen.Proofs.Schema.Plain

/-!
# What is read off plain schemas

The keywords of a plain schema have values of the types that they are read as, so
what a node reads is what the schema says: counts and bounds are the literals
themselves, as those are small enough to be exact. The ranges that samples are
drawn from then lie within the bounds, and only a range of integers can turn out
to be empty.
-/

namespace Specimen

variable {fields : Fields}

/-- A schema that asks for what cannot be. -/
def SchemaError.IsMalformed (e : SchemaError) : Prop := e.category = .malformedSchema

/-! ## Absent keywords -/

/-- A keyword is absent, so whatever it is read as there is nothing. -/
structure Node.Lacks (node : Node) (keyword : String) : Prop where
  value? : node.value? keyword = none
  has : node.has keyword = false
  flag : node.flag keyword = false
  double? : node.double? keyword = none
  string? : node.string? keyword = none
  array? : node.array? keyword = none
  object? : node.object? keyword = none

theorem Node.lacks_of_value? {node : Node} {keyword : String}
    (h : node.value? keyword = none) : node.Lacks keyword := by
  have hget : node.fields.get? keyword = none := h
  refine ⟨h, ?_, ?_, ?_, ?_, ?_, ?_⟩
  · unfold Node.has Fields.contains
    rw [hget]
    rfl
  · unfold Node.flag Node.bool?
    rw [h]
    rfl
  · unfold Node.double?
    rw [h]
    rfl
  · unfold Node.string?
    rw [h]
    rfl
  · unfold Node.array?
    rw [h]
    rfl
  · unfold Node.object?
    rw [h]
    rfl

namespace PlainFields

theorem lacks (h : PlainFields fields) {keyword : String} (hkeyword : keyword ∈ keywordsNotPlain) :
    (⟨fields⟩ : Node).Lacks keyword :=
  Node.lacks_of_value? (h.absent keyword hkeyword)

theorem get?_ne_some (h : PlainFields fields) {keyword : String} {value : Json}
    (hkeyword : keyword ∈ keywordsNotPlain) : fields.get? keyword ≠ some value := by
  rw [h.absent keyword hkeyword]
  simp

theorem step_eq (h : PlainFields fields) : (⟨fields⟩ : Node).step = .ofInt 1 := by
  unfold Node.step
  rw [(h.lacks (by decide)).double?]

theorem format?_eq (h : PlainFields fields) : (⟨fields⟩ : Node).format? = .ok none := by
  unfold Node.format?
  rw [(h.lacks (by decide)).string?]

/-! ## Sizes -/

theorem count?_cases (h : PlainFields fields) (extent : Extent) {keyword : String}
    (hkeyword : keyword = extent.leastKeyword ∨ keyword = extent.greatestKeyword) :
    (fields.get? keyword = none ∧ (⟨fields⟩ : Node).count? keyword = none)
      ∨ ∃ n : Nat, fields.get? keyword = some (.number (.int n))
          ∧ (⟨fields⟩ : Node).count? keyword = some n ∧ n ≤ uint64Max := by
  unfold Node.count? Node.value?
  cases hget : fields.get? keyword with
  | none => exact .inl ⟨rfl, rfl⟩
  | some value =>
      obtain ⟨n, rfl, hle⟩ := h.count extent keyword value hkeyword hget
      have hcount : Number.count? (.int n) = some n := by
        unfold Number.count?
        dsimp only
        rw [if_pos (by omega), Int.toNat_natCast]
      exact .inr ⟨n, rfl, hcount, hle⟩

/-- A size is admitted if the counts that are read admit it. -/
theorem admitsSize (h : PlainFields fields) {extent : Extent} {size : Nat}
    (hleast : ∀ n, (⟨fields⟩ : Node).count? extent.leastKeyword = some n → n ≤ size)
    (hgreatest : ∀ n, (⟨fields⟩ : Node).count? extent.greatestKeyword = some n → size ≤ n) :
    AdmitsSize extent fields size := by
  constructor
  · intro b hget
    rcases h.count?_cases extent (.inl rfl) with ⟨hnone, -⟩ | ⟨n, hsome, hcount, -⟩
    · rw [hnone] at hget
      cases hget
    · rw [hsome] at hget
      cases hget
      show ((n : Int) : Rat) ≤ (size : Rat)
      exact_mod_cast hleast n hcount
  · intro b hget
    rcases h.count?_cases extent (.inr rfl) with ⟨hnone, -⟩ | ⟨n, hsome, hcount, -⟩
    · rw [hnone] at hget
      cases hget
    · rw [hsome] at hget
      cases hget
      show (size : Rat) ≤ ((n : Int) : Rat)
      exact_mod_cast hgreatest n hcount

theorem count?_ordered (h : PlainFields fields) (extent : Extent) {least greatest : Nat}
    (hleast : (⟨fields⟩ : Node).count? extent.leastKeyword = some least)
    (hgreatest : (⟨fields⟩ : Node).count? extent.greatestKeyword = some greatest) :
    least ≤ greatest := by
  rcases h.count?_cases extent (.inl rfl) with ⟨-, hnone⟩ | ⟨n, hget, hcount, -⟩
  · rw [hnone] at hleast
    cases hleast
  · rcases h.count?_cases extent (.inr rfl) with ⟨-, hnone⟩ | ⟨m, hget', hcount', -⟩
    · rw [hnone] at hgreatest
      cases hgreatest
    · rw [hcount] at hleast
      rw [hcount'] at hgreatest
      cases hleast
      cases hgreatest
      exact h.ordered extent least greatest hget hget'

/-- The range of lengths: a greatest length that is stated is not exceeded, and a
least one that is stated lies in the range. -/
theorem lengths_spec (h : PlainFields fields) :
    (∀ n, (⟨fields⟩ : Node).count? "minLength" = some n →
        (⟨fields⟩ : Node).lengths.1 = n ∧ n ≤ (⟨fields⟩ : Node).lengths.2)
      ∧ ∀ n, (⟨fields⟩ : Node).count? "maxLength" = some n → (⟨fields⟩ : Node).lengths.2 = n := by
  unfold Node.lengths
  refine ⟨fun n hn => ?_, fun n hn => ?_⟩
  · rw [hn]
    refine ⟨rfl, ?_⟩
    rcases h.count?_cases .length (.inr rfl) with ⟨-, hnone⟩ | ⟨m, -, hcount, -⟩
    · rcases h.count?_cases .length (.inl rfl) with ⟨-, hnone'⟩ | ⟨k, -, hcount', hle⟩
      · exact absurd (hnone'.symm.trans hn) (by simp)
      · obtain rfl : k = n := Option.some.inj (hcount'.symm.trans hn)
        have hnone : (⟨fields⟩ : Node).count? "maxLength" = none := hnone
        rw [hnone]
        simp only [Option.getD_some, Option.getD_none]
        omega
    · have hcount : (⟨fields⟩ : Node).count? "maxLength" = some m := hcount
      rw [hcount]
      exact h.count?_ordered .length hn hcount
  · rw [hn]
    rfl

/-- The range of numbers of items, which is never inverted. -/
theorem itemCounts_spec (h : PlainFields fields) (schemas : Nat) :
    ((⟨fields⟩ : Node).itemCounts schemas).1 ≤ ((⟨fields⟩ : Node).itemCounts schemas).2
      ∧ (∀ n, (⟨fields⟩ : Node).count? "minItems" = some n →
          ((⟨fields⟩ : Node).itemCounts schemas).1 = n)
      ∧ ∀ n, (⟨fields⟩ : Node).count? "maxItems" = some n →
          ((⟨fields⟩ : Node).itemCounts schemas).2 = n := by
  unfold Node.itemCounts
  refine ⟨?_, fun n hn => by rw [hn]; rfl, fun n hn => by rw [hn]; rfl⟩
  cases hmost : (⟨fields⟩ : Node).count? "maxItems" with
  | none => exact Nat.le_max_right ..
  | some most =>
      cases hleast : (⟨fields⟩ : Node).count? "minItems" with
      | none => exact Nat.zero_le _
      | some least => exact h.count?_ordered .items hleast hmost

/-! ## Bounds -/

theorem bound?_cases (h : PlainFields fields) (side : Side) :
    (fields.get? side.plainKeyword = none ∧ (⟨fields⟩ : Node).bound? side = none)
      ∨ ∃ n : Int, n.natAbs ≤ 2 ^ 53 ∧ fields.get? side.plainKeyword = some (.number (.int n))
          ∧ (⟨fields⟩ : Node).bound? side = some ⟨.ofInt n, false⟩ := by
  have hstrict : side.strictKeyword ∈ keywordsNotPlain := by cases side <;> decide
  unfold Node.bound?
  rw [(h.lacks hstrict).double?, (h.lacks hstrict).flag]
  unfold Node.double? Node.value?
  cases hget : fields.get? side.plainKeyword with
  | none => exact .inl ⟨rfl, rfl⟩
  | some value =>
      obtain ⟨-, n, rfl, hn⟩ := h.bound side value hget
      exact .inr ⟨n, hn, rfl, rfl⟩

theorem leastInteger_ofInt {n : Int} (h : n.natAbs ≤ 2 ^ 53) :
    Node.leastInteger ⟨.ofInt n, false⟩ = n :=
  ((Double.isInt_ofInt h).ceil h).toInt64 h

theorem greatestInteger_ofInt {n : Int} (h : n.natAbs ≤ 2 ^ 53) :
    Node.greatestInteger ⟨.ofInt n, false⟩ = n :=
  ((Double.isInt_ofInt h).floor h).toInt64 h

/-- A side of the range of integers: where a bound is stated it is the end of the
range. -/
theorem closeIntegers_spec {lo? hi? : Option Int} (hlo : ∀ n, lo? = some n → n.natAbs ≤ 2 ^ 53)
    (hhi : ∀ n, hi? = some n → n.natAbs ≤ 2 ^ 53) :
    (∀ n, lo? = some n → (Node.closeIntegers lo? hi?).1 = n)
      ∧ (∀ n, hi? = some n → (Node.closeIntegers lo? hi?).2 = n)
      ∧ int64Min ≤ (Node.closeIntegers lo? hi?).1 ∧ (Node.closeIntegers lo? hi?).2 ≤ int64Max := by
  unfold Node.closeIntegers saturate openBound int64Min int64Max
  cases lo? with
  | none =>
      cases hi? with
      | none => simp
      | some hi =>
          have hhi := hhi hi rfl
          dsimp only
          refine ⟨by simp, ?_, ?_, ?_⟩ <;> split <;> simp <;> omega
  | some lo =>
      have hlo := hlo lo rfl
      cases hi? with
      | none =>
          dsimp only
          refine ⟨?_, by simp, ?_, ?_⟩ <;> split <;> simp <;> omega
      | some hi =>
          have hhi := hhi hi rfl
          refine ⟨by simp, by simp, ?_, ?_⟩ <;> simp <;> omega

/-- A bound as an integer, which it is read off as without loss. -/
theorem integerBound_cases (h : PlainFields fields) (side : Side) {toInteger : Bound → Int}
    (hexact : ∀ n : Int, n.natAbs ≤ 2 ^ 53 → toInteger ⟨.ofInt n, false⟩ = n) :
    (fields.get? side.plainKeyword = none
        ∧ ((⟨fields⟩ : Node).bound? side).map toInteger = none)
      ∨ ∃ n : Int, n.natAbs ≤ 2 ^ 53 ∧ fields.get? side.plainKeyword = some (.number (.int n))
          ∧ ((⟨fields⟩ : Node).bound? side).map toInteger = some n := by
  rcases h.bound?_cases side with ⟨hnone, hbound⟩ | ⟨n, hn, hsome, hbound⟩
  · exact .inl ⟨hnone, by rw [hbound, Option.map_none]⟩
  · exact .inr ⟨n, hn, hsome, by rw [hbound, Option.map_some, hexact n hn]⟩

/-- The integers that samples are drawn from are those within the bounds. -/
theorem integerRange_spec (h : PlainFields fields) :
    (∃ lo hi, (⟨fields⟩ : Node).integerRange = .ok (lo, hi) ∧ lo ≤ hi ∧ int64Min ≤ lo
        ∧ hi ≤ int64Max ∧ ∀ n, lo ≤ n → n ≤ hi → AdmitsNumber fields (.int n))
      ∨ ∃ lo hi, (⟨fields⟩ : Node).integerRange = .error (.malformed (.noInteger lo hi)) := by
  have hlower := h.integerBound_cases .lower fun n => leastInteger_ofInt
  have hupper := h.integerBound_cases .upper fun n => greatestInteger_ofInt
  have hsmall {side : Side} {n? : Option Int}
      (hcases : (fields.get? side.plainKeyword = none ∧ n? = none)
        ∨ ∃ n : Int, n.natAbs ≤ 2 ^ 53
            ∧ fields.get? side.plainKeyword = some (.number (.int n)) ∧ n? = some n) :
      ∀ n, n? = some n → n.natAbs ≤ 2 ^ 53 := by
    rintro n rfl
    rcases hcases with ⟨-, hnone⟩ | ⟨m, hm, -, hread⟩
    · cases hnone
    · exact Option.some.inj hread ▸ hm
  obtain ⟨hlo, hhi, hmin, hmax⟩ := closeIntegers_spec (hsmall hlower) (hsmall hupper)
  unfold Node.integerRange
  dsimp only
  split
  · exact .inr ⟨_, _, rfl⟩
  · next hle =>
      refine .inl ⟨_, _, rfl, by omega, hmin, hmax, fun n hge hle => ⟨?_, ?_⟩⟩
      · intro b hget
        rcases hlower with ⟨hnone, -⟩ | ⟨m, -, hsome, hread⟩
        · exact absurd (hnone.symm.trans hget) (by simp)
        · obtain ⟨⟨⟩⟩ := Option.some.inj (hsome.symm.trans hget)
          have heq := hlo m hread
          show ((m : Int) : Rat) ≤ ((n : Int) : Rat)
          exact_mod_cast heq ▸ hge
      · intro b hget
        rcases hupper with ⟨hnone, -⟩ | ⟨m, -, hsome, hread⟩
        · exact absurd (hnone.symm.trans hget) (by simp)
        · obtain ⟨⟨⟩⟩ := Option.some.inj (hsome.symm.trans hget)
          have heq := hhi m hread
          show ((n : Int) : Rat) ≤ ((m : Int) : Rat)
          exact_mod_cast heq ▸ hle

/-- Without bounds there is a range of numbers. -/
theorem numberRange_spec (h : PlainFields fields)
    (hnone : ∀ side : Side, fields.get? side.plainKeyword = none) :
    ∃ lo hi, (⟨fields⟩ : Node).numberRange = .ok (lo, hi) := by
  have hbound (side : Side) : (⟨fields⟩ : Node).bound? side = none := by
    rcases h.bound?_cases side with ⟨-, hbound⟩ | ⟨m, -, hsome, -⟩
    · exact hbound
    · exact absurd ((hnone side).symm.trans hsome) (by simp)
  unfold Node.numberRange
  rw [hbound, hbound]
  dsimp only [Option.map_none]
  split
  · exact ⟨_, _, rfl⟩
  · exact ⟨_, _, rfl⟩

end PlainFields

end Specimen
