import Mathlib.Data.List.Forall2
import Specimen.Schema.Overlay

/-!
# Schemas that differ inside

Two schemas are *alike* for a relation `R` if they have the same keywords in the
same order, and the values of these are equal but for the schemas that stand
under some of them, which are related by `R`. A branch of a combined schema is
not related by `R` as a whole; its keywords are laid among those of the node, so
it is alike itself (`BranchesAlike`).

The relation is kept by what is done to fields, and a keyword that is looked up has
values that are alike on both sides.
-/

namespace Specimen

/-! ## The relation -/

/-- The keywords whose values are tables of schemas. -/
def tableKeywords : List String := ["properties", "patternProperties"]

/-- The keywords that schemas stand under. -/
def schemaKeywords : List String :=
  tableKeywords ++ ["additionalProperties", "items"] ++ Overlay.keywords

/-- Tables of schemas under the same names. -/
inductive TableAlike (R : Json → Json → Prop) : Fields → Fields → Prop
  | nil : TableAlike R [] []
  | cons {name : String} {a b : Json} {f g : Fields} (h : R a b) (hrest : TableAlike R f g) :
      TableAlike R ((name, a) :: f) ((name, b) :: g)

mutual

/-- Objects with the same keywords in the same order and values that are alike. -/
inductive FieldsAlike (R : Json → Json → Prop) : Fields → Fields → Prop
  | nil : FieldsAlike R [] []
  | cons {key : String} {a b : Json} {f g : Fields} (h : ValueAlike R key a b)
      (hrest : FieldsAlike R f g) : FieldsAlike R ((key, a) :: f) ((key, b) :: g)

/-- Values of one keyword that are equal up to the schemas inside. -/
inductive ValueAlike (R : Json → Json → Prop) : String → Json → Json → Prop
  | same {key : String} (a : Json) : ValueAlike R key a a
  | table {key : String} {f g : Fields} (hkey : key ∈ tableKeywords) (h : TableAlike R f g) :
      ValueAlike R key (.object f) (.object g)
  | additional {f g : Fields} (h : R (.object f) (.object g)) :
      ValueAlike R "additionalProperties" (.object f) (.object g)
  | item {f g : Fields} (h : R (.object f) (.object g)) :
      ValueAlike R "items" (.object f) (.object g)
  | tuple {as bs : List Json} (h : List.Forall₂ R as bs) :
      ValueAlike R "items" (.array as) (.array bs)
  | branches {key : String} {as bs : List Json} (hkey : key ∈ Overlay.keywords)
      (h : BranchesAlike R as bs) : ValueAlike R key (.array as) (.array bs)

/-- Lists of branches that are equal or alike inside. -/
inductive BranchesAlike (R : Json → Json → Prop) : List Json → List Json → Prop
  | nil : BranchesAlike R [] []
  | same (a : Json) {as bs : List Json} (hrest : BranchesAlike R as bs) :
      BranchesAlike R (a :: as) (a :: bs)
  | inside {f g : Fields} {as bs : List Json} (h : FieldsAlike R f g)
      (hrest : BranchesAlike R as bs) : BranchesAlike R (.object f :: as) (.object g :: bs)

end

variable {R : Json → Json → Prop}

theorem FieldsAlike.refl : ∀ f : Fields, FieldsAlike R f f
  | [] => .nil
  | (_, a) :: rest => .cons (.same a) (FieldsAlike.refl rest)

theorem TableAlike.refl : ∀ {f : Fields}, (∀ field ∈ f, R field.2 field.2) → TableAlike R f f
  | [], _ => .nil
  | _ :: _, h =>
      .cons (h _ (List.mem_cons_self ..)) (.refl fun _ hmem => h _ (List.mem_cons_of_mem _ hmem))

/-! ## The other way round -/

theorem TableAlike.flip : ∀ {f g : Fields}, TableAlike R f g → TableAlike (fun a b => R b a) g f
  | _, _, .nil => .nil
  | _, _, .cons h hrest => .cons h hrest.flip

mutual

theorem FieldsAlike.flip :
    ∀ {f g : Fields}, FieldsAlike R f g → FieldsAlike (fun a b => R b a) g f
  | _, _, .nil => .nil
  | _, _, .cons h hrest => .cons h.flip hrest.flip

theorem ValueAlike.flip :
    ∀ {key : String} {a b : Json}, ValueAlike R key a b → ValueAlike (fun a b => R b a) key b a
  | _, _, _, .same a => .same a
  | _, _, _, .table hkey h => .table hkey h.flip
  | _, _, _, .additional h => .additional h
  | _, _, _, .item h => .item h
  | _, _, _, .tuple h => .tuple h.flip
  | _, _, _, .branches hkey h => .branches hkey h.flip

theorem BranchesAlike.flip :
    ∀ {as bs : List Json}, BranchesAlike R as bs → BranchesAlike (fun a b => R b a) bs as
  | _, _, .nil => .nil
  | _, _, .same a hrest => .same a hrest.flip
  | _, _, .inside h hrest => .inside h.flip hrest.flip

end

/-! ## Equality inside -/

theorem TableAlike.eq : ∀ {f g : Fields}, TableAlike (· = ·) f g → f = g
  | _, _, .nil => rfl
  | _, _, .cons h hrest => by rw [h, hrest.eq]

mutual

/-- Nothing differs between objects in which no schema does. -/
theorem FieldsAlike.eq : ∀ {f g : Fields}, FieldsAlike (· = ·) f g → f = g
  | _, _, .nil => rfl
  | _, _, .cons h hrest => by rw [h.eq, hrest.eq]

theorem ValueAlike.eq : ∀ {key : String} {a b : Json}, ValueAlike (· = ·) key a b → a = b
  | _, _, _, .same _ => rfl
  | _, _, _, .table _ h => by rw [h.eq]
  | _, _, _, .additional h => h
  | _, _, _, .item h => h
  | _, _, _, .tuple h => by rw [List.forall₂_eq_eq_eq] at h; rw [h]
  | _, _, _, .branches _ h => by rw [h.eq]

theorem BranchesAlike.eq : ∀ {as bs : List Json}, BranchesAlike (· = ·) as bs → as = bs
  | _, _, .nil => rfl
  | _, _, .same _ hrest => by rw [hrest.eq]
  | _, _, .inside h hrest => by rw [h.eq, hrest.eq]

end

/-! ## Fields -/

theorem FieldsAlike.get? {f g : Fields} (h : FieldsAlike R f g) (key : String) :
    Option.Rel (ValueAlike R key) (f.get? key) (g.get? key) := by
  induction f generalizing g with
  | nil =>
      cases h
      exact .none
  | cons field f ih =>
      cases h with
      | @cons name a b _ g hab hrest =>
          unfold Fields.get?
          by_cases hname : name = key
          · rw [if_pos hname, if_pos hname]
            exact .some (hname ▸ hab)
          · rw [if_neg hname, if_neg hname]
            exact ih hrest

theorem TableAlike.get? {f g : Fields} (h : TableAlike R f g) (name : String) :
    Option.Rel R (f.get? name) (g.get? name) := by
  induction h with
  | nil => exact .none
  | @cons other a b f g hab _ ih =>
      unfold Fields.get?
      by_cases hname : other = name
      · rw [if_pos hname, if_pos hname]
        exact .some hab
      · rw [if_neg hname, if_neg hname]
        exact ih

theorem TableAlike.names_eq {f g : Fields} (h : TableAlike R f g) :
    Fields.names f = Fields.names g := by
  induction h with
  | nil => rfl
  | cons _ _ ih => exact congrArg (_ :: ·) ih

theorem FieldsAlike.insert {f g : Fields} {key : String} {a b : Json} (h : FieldsAlike R f g)
    (hab : ValueAlike R key a b) :
    FieldsAlike R (Fields.insert key a f) (Fields.insert key b g) := by
  induction f generalizing g with
  | nil =>
      cases h
      exact .cons hab .nil
  | cons field f ih =>
      cases h with
      | @cons other _ _ _ g hother hrest =>
          unfold Fields.insert
          by_cases hlt : key < other
          · rw [if_pos hlt, if_pos hlt]
            exact .cons hab (.cons hother hrest)
          · rw [if_neg hlt, if_neg hlt]
            by_cases heq : key = other
            · rw [if_pos heq, if_pos heq]
              exact .cons hab hrest
            · rw [if_neg heq, if_neg heq]
              exact .cons hother (ih hrest)

end Specimen
