import Specimen.Json.Basic

/-!
# Equal documents

Equality of documents compares their numbers as numbers: the two zeros are equal though
they differ, and what is not a number equals nothing, not even itself. So it is no more
than symmetric and transitive (`same_comm`, `same_trans`).
-/

namespace Specimen

theorem Double.same_comm (x y : Double) : x.same y = y.same x := by
  unfold same
  rw [Bool.and_comm (!x.isNaN), Bool.beq_comm]

theorem Double.same_trans {x y z : Double} (hxy : x.same y = true) (hyz : y.same z = true) :
    x.same z = true := by
  simp only [same, Bool.and_eq_true, beq_iff_eq] at hxy hyz ⊢
  exact ⟨⟨hxy.1.1, hyz.1.2⟩, hxy.2.trans hyz.2⟩

theorem Number.same_comm (m n : Number) : m.same n = n.same m := by
  cases m <;> cases n <;> simp only [same]
  · exact Bool.beq_comm
  · exact Double.same_comm _ _

theorem Number.same_trans {l m n : Number} (hlm : l.same m = true) (hmn : m.same n = true) :
    l.same n = true := by
  cases l <;> cases m <;> cases n <;> simp only [same, Bool.false_eq_true] at hlm hmn ⊢
  · exact beq_iff_eq.mpr ((beq_iff_eq.mp hlm).trans (beq_iff_eq.mp hmn))
  · exact Double.same_trans hlm hmn

namespace Json

mutual

theorem same_comm : ∀ a b : Json, a.same b = b.same a
  | .null, b => by cases b <;> simp [same]
  | .bool a, b => by cases b <;> simp [same, Bool.beq_comm]
  | .number a, b => by cases b <;> simp [same, Number.same_comm a]
  | .string a, b => by cases b <;> simp [same, Bool.beq_comm]
  | .array as, b => by
      cases b with
      | array bs => exact sameItems_comm as bs
      | _ => simp [same]
  | .object as, b => by
      cases b with
      | object bs => exact sameFields_comm as bs
      | _ => simp [same]

theorem sameItems_comm : ∀ as bs : List Json, sameItems as bs = sameItems bs as
  | [], [] => rfl
  | [], _ :: _ => rfl
  | _ :: _, [] => rfl
  | a :: as, b :: bs => by rw [sameItems, sameItems, same_comm a b, sameItems_comm as bs]

theorem sameFields_comm : ∀ as bs : List (String × Json), sameFields as bs = sameFields bs as
  | [], [] => rfl
  | [], _ :: _ => rfl
  | _ :: _, [] => rfl
  | (name, a) :: as, (other, b) :: bs => by
      rw [sameFields, sameFields, same_comm a b, sameFields_comm as bs, Bool.beq_comm]

end

mutual

theorem same_trans : ∀ {a b c : Json}, a.same b = true → b.same c = true → a.same c = true
  | .null, b, c, hab, hbc => by
      cases b with
      | null => exact hbc
      | _ => exact absurd hab Bool.false_ne_true
  | .bool a, b, c, hab, hbc => by
      cases b with
      | bool b =>
          cases c with
          | bool c => exact beq_iff_eq.mpr ((beq_iff_eq.mp hab).trans (beq_iff_eq.mp hbc))
          | _ => exact absurd hbc Bool.false_ne_true
      | _ => exact absurd hab Bool.false_ne_true
  | .number a, b, c, hab, hbc => by
      cases b with
      | number b =>
          cases c with
          | number c => exact Number.same_trans hab hbc
          | _ => exact absurd hbc Bool.false_ne_true
      | _ => exact absurd hab Bool.false_ne_true
  | .string a, b, c, hab, hbc => by
      cases b with
      | string b =>
          cases c with
          | string c => exact beq_iff_eq.mpr ((beq_iff_eq.mp hab).trans (beq_iff_eq.mp hbc))
          | _ => exact absurd hbc Bool.false_ne_true
      | _ => exact absurd hab Bool.false_ne_true
  | .array a, b, c, hab, hbc => by
      cases b with
      | array b =>
          cases c with
          | array c => exact sameItems_trans hab hbc
          | _ => exact absurd hbc Bool.false_ne_true
      | _ => exact absurd hab Bool.false_ne_true
  | .object a, b, c, hab, hbc => by
      cases b with
      | object b =>
          cases c with
          | object c => exact sameFields_trans hab hbc
          | _ => exact absurd hbc Bool.false_ne_true
      | _ => exact absurd hab Bool.false_ne_true

theorem sameItems_trans : ∀ {as bs cs : List Json}, sameItems as bs = true →
    sameItems bs cs = true → sameItems as cs = true
  | [], [], _, _, h => h
  | _ :: _, _ :: _, [], _, h => h
  | a :: as, b :: bs, c :: cs, hab, hbc => by
      simp only [sameItems, Bool.and_eq_true] at hab hbc ⊢
      exact ⟨same_trans hab.1 hbc.1, sameItems_trans hab.2 hbc.2⟩

theorem sameFields_trans : ∀ {as bs cs : List (String × Json)}, sameFields as bs = true →
    sameFields bs cs = true → sameFields as cs = true
  | [], [], _, _, h => h
  | _ :: _, _ :: _, [], _, h => h
  | (_, a) :: as, (_, b) :: bs, (_, c) :: cs, hab, hbc => by
      simp only [sameFields, Bool.and_eq_true, beq_iff_eq] at hab hbc ⊢
      exact ⟨⟨hab.1.1.trans hbc.1.1, same_trans hab.1.2 hbc.1.2⟩, sameFields_trans hab.2 hbc.2⟩

end

end Json

end Specimen
