import Specimen.Pattern.CharClass
import Specimen.Pattern.Unicode.Property

/-!
# Characters of a class

Membership in what classes are put together from, read as an order of code points.
Adding a range may join it with others, but only where no code point lies between,
so a class has the characters of all ranges that were added and no others
(`contains_ofRanges`, `contains_union`).
-/

namespace Specimen

namespace CharRange

variable {r s : CharRange} {c : Char}

theorem contains_iff : r.contains c = true ↔ r.lo.toNat ≤ c.toNat ∧ c.toNat ≤ r.hi.toNat := by
  unfold contains
  rw [Bool.and_eq_true, decide_eq_true_eq, decide_eq_true_eq, Char.le_def, Char.le_def,
    UInt32.le_iff_toNat_le, UInt32.le_iff_toNat_le]
  rfl

theorem toNat_lo_le_hi (r : CharRange) : r.lo.toNat ≤ r.hi.toNat := by
  have h := r.lo_le_hi
  rw [Char.le_def, UInt32.le_iff_toNat_le] at h
  exact h

theorem contains_single {a : Char} : (single a).contains c = true ↔ c = a := by
  rw [contains_iff, ← Char.toNat_inj]
  show a.toNat ≤ c.toNat ∧ c.toNat ≤ a.toNat ↔ _
  omega

theorem toNat_lo_hull (r s : CharRange) : (r.hull s).lo.toNat = min r.lo.toNat s.lo.toNat := by
  unfold hull
  simp only [Char.le_def, UInt32.le_iff_toNat_le]
  split
  · next h => exact (Nat.min_eq_left h).symm
  · next h => exact (Nat.min_eq_right (Nat.le_of_not_le h)).symm

theorem toNat_hi_hull (r s : CharRange) : (r.hull s).hi.toNat = max r.hi.toNat s.hi.toNat := by
  unfold hull
  simp only [Char.le_def, UInt32.le_iff_toNat_le]
  split
  · next h => exact (Nat.max_eq_right h).symm
  · next h => exact (Nat.max_eq_left (Nat.le_of_not_le h)).symm

/-- Two ranges without a code point between them make one range. -/
theorem contains_hull (hr : s.lo.toNat ≤ r.hi.toNat + 1) (hs : r.lo.toNat ≤ s.hi.toNat + 1) :
    (r.hull s).contains c = true ↔ r.contains c = true ∨ s.contains c = true := by
  have hr' := r.toNat_lo_le_hi
  have hs' := s.toNat_lo_le_hi
  rw [contains_iff, contains_iff, contains_iff, toNat_lo_hull, toNat_hi_hull]
  omega

end CharRange

namespace CharClass

variable {a b : CharClass} {r : CharRange} {c : Char}

theorem contains_iff : a.contains c = true ↔ ∃ r ∈ a.ranges, r.contains c = true :=
  List.any_eq_true

theorem contains_addRange : ∀ {ranges : List CharRange} {r : CharRange},
    (∃ s ∈ addRange r ranges, s.contains c = true)
      ↔ r.contains c = true ∨ ∃ s ∈ ranges, s.contains c = true
  | [], r => by simp [addRange]
  | s :: rest, r => by
      unfold addRange
      split
      · simp
      · split
        · simp only [List.mem_cons, exists_eq_or_imp, contains_addRange]
          exact or_left_comm
        · next hr hs =>
            simp only [contains_addRange, CharRange.contains_hull (show s.lo.toNat ≤ _ by omega)
              (show r.lo.toNat ≤ _ by omega), List.mem_cons, exists_eq_or_imp, or_assoc]

theorem contains_add : (a.add r).contains c = true ↔ r.contains c = true ∨ a.contains c = true := by
  rw [contains_iff, contains_iff]
  exact contains_addRange

theorem contains_foldl_add : ∀ {ranges : List CharRange} {a : CharClass},
    (ranges.foldl add a).contains c = true
      ↔ a.contains c = true ∨ ∃ r ∈ ranges, r.contains c = true
  | [], a => by simp
  | r :: rest, a => by
      simp only [List.foldl_cons, contains_foldl_add, contains_add, List.mem_cons,
        exists_eq_or_imp, or_assoc, or_left_comm]

theorem contains_empty : empty.contains c = false := rfl

theorem contains_ofRanges {ranges : List CharRange} :
    (ofRanges ranges).contains c = true ↔ ∃ r ∈ ranges, r.contains c = true := by
  unfold ofRanges
  rw [contains_foldl_add, contains_empty]
  simp

theorem contains_union : (a.union b).contains c = true ↔ a.contains c = true ∨ b.contains c = true := by
  unfold union
  rw [contains_foldl_add, contains_iff (a := b)]

theorem contains_foldl_union : ∀ {classes : List CharClass} {a : CharClass},
    (classes.foldl union a).contains c = true
      ↔ a.contains c = true ∨ ∃ b ∈ classes, b.contains c = true
  | [], a => by simp
  | b :: rest, a => by
      simp only [List.foldl_cons, contains_foldl_union, contains_union, List.mem_cons,
        exists_eq_or_imp, or_assoc]

/-- A class with one character has just that character. -/
theorem contains_of_single? {d : Char} (h : a.single? = some d) :
    a.contains c = true ↔ c = d := by
  unfold single? at h
  split at h
  · next r hr =>
      split at h
      · next hends =>
          obtain rfl := Option.some.inj h
          have hlo := congrArg Char.toNat hends
          simp only [contains_iff, hr, List.mem_singleton, exists_eq_left, CharRange.contains_iff,
            ← Char.toNat_inj]
          omega
      · cases h
  · cases h

end CharClass

/-- A character is in a class of several tables only if it is in one of them. -/
theorem Unicode.contains_classOf_eq_false {tables : List (List (Nat × Nat))} {c : Char}
    (h : ∀ table ∈ tables, (CharClass.ofTable table).contains c = false) :
    (classOf tables).contains c = false := by
  have hunion : ((tables.map CharClass.ofTable).foldl CharClass.union .empty).contains c = true ↔ _ :=
    CharClass.contains_foldl_union
  rw [List.foldl_map] at hunion
  refine Bool.eq_false_iff.mpr fun hc => ?_
  rcases hunion.mp hc with hempty | ⟨cls, hcls, hc⟩
  · cases hempty
  · obtain ⟨table, htable, rfl⟩ := List.mem_map.mp hcls
    rw [h table htable] at hc
    cases hc

end Specimen
