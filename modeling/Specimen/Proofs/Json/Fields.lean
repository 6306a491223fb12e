import Mathlib.Data.List.Nodup
import Specimen.Json.Basic

/-!
# Fields

Where no name comes twice, the fields of an object are a finite map: a field is
found just if it is there (`get?_eq_some_iff`), and putting fields in order only
permutes them (`ofList_perm`).
-/

namespace Specimen.Fields

theorem mem_of_get? {fields : Fields} {name : String} {value : Json}
    (h : fields.get? name = some value) : (name, value) ∈ fields := by
  induction fields with
  | nil => cases h
  | cons field rest ih =>
      obtain ⟨key, v⟩ := field
      unfold get? at h
      split at h
      · next hkey =>
          subst hkey
          exact Option.some.inj h ▸ List.mem_cons_self ..
      · exact List.mem_cons_of_mem _ (ih h)

theorem mem_names {fields : Fields} {name : String} :
    name ∈ names fields ↔ ∃ value, (name, value) ∈ fields := by
  unfold names
  simp

theorem get?_eq_none_iff {fields : Fields} {name : String} :
    fields.get? name = none ↔ name ∉ names fields := by
  induction fields with
  | nil => simp [get?, names]
  | cons field rest ih =>
      obtain ⟨key, v⟩ := field
      unfold get?
      by_cases hkey : key = name
      · simp [hkey, names]
      · rw [if_neg hkey, ih]
        have hne : name ≠ key := fun heq => hkey heq.symm
        simp [names, hne]

theorem exists_get?_of_mem_names {fields : Fields} {name : String} (h : name ∈ names fields) :
    ∃ value, fields.get? name = some value := by
  cases hget : fields.get? name with
  | some value => exact ⟨value, rfl⟩
  | none => exact absurd h (get?_eq_none_iff.mp hget)

theorem get?_eq_some_iff {fields : Fields} (hnd : (names fields).Nodup) {name : String}
    {value : Json} : fields.get? name = some value ↔ (name, value) ∈ fields := by
  refine ⟨mem_of_get?, fun hmem => ?_⟩
  induction fields with
  | nil => cases hmem
  | cons field rest ih =>
      obtain ⟨key, v⟩ := field
      obtain ⟨hkey, hrest⟩ := List.nodup_cons.mp hnd
      unfold get?
      rcases List.mem_cons.mp hmem with heq | hmem
      · obtain ⟨rfl, rfl⟩ := Prod.mk.inj heq
        exact if_pos rfl
      · have hne : key ≠ name := fun heq => hkey (heq ▸ mem_names.mpr ⟨value, hmem⟩)
        rw [if_neg hne]
        exact ih hrest hmem

/-! ## Fields taken together -/

theorem get?_cons (key : String) (value : Json) (rest : Fields) (name : String) :
    Fields.get? ((key, value) :: rest) name = if key = name then some value else rest.get? name :=
  rfl

theorem get?_append (f g : Fields) (name : String) :
    Fields.get? (f ++ g) name = (f.get? name).or (g.get? name) := by
  induction f with
  | nil => rfl
  | cons field rest ih =>
      rw [List.cons_append, get?_cons, get?_cons, ih]
      by_cases hkey : field.1 = name
      · rw [if_pos hkey, if_pos hkey, Option.some_or]
      · rw [if_neg hkey, if_neg hkey]

/-- Of the fields whose names pass a test, those are found whose name does. -/
theorem get?_filter (p : String → Bool) (fields : Fields) (name : String) :
    Fields.get? (fields.filter fun field => p field.1) name
      = if p name then fields.get? name else none := by
  induction fields with
  | nil => exact (ite_self none).symm
  | cons field rest ih =>
      rw [get?_cons]
      by_cases hkey : field.1 = name
      · subst hkey
        cases hp : p field.1 with
        | true => rw [List.filter_cons, if_pos hp, get?_cons, if_pos rfl, if_pos rfl, if_pos rfl]
        | false =>
            rw [List.filter_cons, if_neg (by simp [hp]), ih, hp]
            rfl
      · rw [if_neg hkey, ← ih]
        cases hp : p field.1 with
        | true => rw [List.filter_cons, if_pos hp, get?_cons, if_neg hkey]
        | false => rw [List.filter_cons, if_neg (by simp [hp])]

/-! ## Fields in order -/

/-- A field that is put in its place hides the one of its name and no other. -/
theorem get?_insert (key : String) (value : Json) (fields : Fields) (name : String) :
    (insert key value fields).get? name = if key = name then some value else fields.get? name := by
  induction fields with
  | nil => rfl
  | cons field rest ih =>
      unfold insert
      split
      · rfl
      · split
        · next heq =>
            rw [get?_cons, get?_cons, heq]
            split <;> rfl
        · next hne =>
            rw [get?_cons, get?_cons, ih]
            by_cases hother : field.1 = name
            · rw [if_pos hother, if_pos hother, if_neg fun heq => hne (heq.trans hother.symm)]
            · rw [if_neg hother, if_neg hother]

theorem insert_perm {name : String} {value : Json} :
    ∀ {fields : Fields}, name ∉ names fields →
      (insert name value fields).Perm ((name, value) :: fields)
  | [], _ => .refl _
  | (key, old) :: rest, h => by
      obtain ⟨hne, hrest⟩ := not_or.mp fun hmem => h (List.mem_cons.mpr hmem)
      have hother : name ≠ key := hne
      simp only [insert, if_neg hother]
      split
      · exact .refl _
      · exact ((insert_perm hrest).cons _).trans (.swap ..)

/-- Putting fields with different names in order permutes them. -/
theorem ofList_perm {fields : List (String × Json)} (h : (names fields).Nodup) :
    (ofList fields).Perm fields := by
  -- the names of what is in order already differ from those that are left
  have hfold : ∀ (rest done : List (String × Json)), (names (done ++ rest)).Nodup →
      (rest.foldl (fun ordered field => insert field.1 field.2 ordered) done).Perm
        (done ++ rest) := by
    intro rest
    induction rest with
    | nil => intro done _; simp
    | cons field rest ih =>
        intro done hnd
        have hfree : field.1 ∉ names done := by
          unfold names at hnd ⊢
          rw [List.map_append, List.map_cons, List.nodup_append] at hnd
          exact fun hmem => hnd.2.2 _ hmem _ (List.mem_cons_self ..) rfl
        have hinsert : (insert field.1 field.2 done).Perm (field :: done) := insert_perm hfree
        have hall : (insert field.1 field.2 done ++ rest).Perm (done ++ field :: rest) :=
          (hinsert.append_right rest).trans List.perm_middle.symm
        refine (ih _ ?_).trans hall
        exact (hall.map Prod.fst).nodup_iff.mpr hnd
  exact hfold fields [] h

end Specimen.Fields
