import Specimen.Proofs.Schema.PlainReading
import Specimen.Proofs.Schema.Selection

/-!
# Names selected for plain schemas

A plain schema brings no names along and has no patterns to make names up from.
What is selected is therefore within both of its bounds, and if it is closed every
name is declared (`select_admits`).
-/

namespace Specimen.PropertyNames

open Draw SchemaError

variable {fields : Fields}

/-! ## What is read -/

/-- The names that an object declares schemas for. -/
theorem mem_declared {name : String}
    (h : name ∈ Fields.names (((⟨fields⟩ : Node).object? "properties").getD [])) :
    ∃ table, fields.get? "properties" = some (.object table) ∧ name ∈ Fields.names table := by
  unfold Node.object? Node.value? at h
  cases hget : fields.get? "properties" with
  | none =>
      rw [hget] at h
      cases h
  | some value =>
      rw [hget] at h
      cases value with
      | object table => exact ⟨table, rfl, h⟩
      | _ => cases h

theorem object?_properties {table : Fields}
    (h : fields.get? "properties" = some (.object table)) :
    (⟨fields⟩ : Node).object? "properties" = some table := by
  unfold Node.object? Node.value?
  rw [h]
  rfl

theorem required_eq_of_get? {names : List String}
    (h : fields.get? "required" = some (.array (names.map .string))) :
    required ⟨fields⟩ = names := by
  unfold required Node.strings? Node.array? Node.value?
  rw [h]
  show (names.map Json.string).filterMap Json.string? = names
  rw [List.filterMap_map]
  exact List.filterMap_some

theorem bringsNothing_of_plain (h : PlainFields fields) :
    BringsNothing (dependencyTables ⟨fields⟩) := by
  intro table htable
  obtain ⟨keyword, hmem, hsome⟩ := List.mem_filterMap.mp htable
  have hnone : (⟨fields⟩ : Node).object? keyword = none := by
    refine (h.lacks ?_).object?
    rcases List.mem_cons.mp hmem with rfl | hmem
    · decide
    · rw [List.mem_singleton.mp hmem]
      decide
  rw [hnone] at hsome
  cases hsome

theorem namePatterns_eq (h : PlainFields fields) :
    namePatterns ⟨fields⟩ = .ok [] := by
  unfold namePatterns
  rw [(h.lacks (by decide)).object?]
  rfl

/-! ## Selections -/

/-- Names as the keywords of an object ask for them. -/
structure AdmitsSelection (fields : Fields) (names : List String) : Prop where
  nodup : names.Nodup
  size : AdmitsSize .properties fields names.length
  required : ∀ list name, fields.get? "required" = some (.array list) → .string name ∈ list →
    name ∈ names
  closed : fields.get? "additionalProperties" = some (.bool false) → ∀ name ∈ names,
    ¬ IsAdditional fields name

theorem required_length_le (h : PlainFields fields) {most : Nat}
    (hmost : fields.get? "maxProperties" = some (.number (.int most))) :
    (required ⟨fields⟩).eraseDups.length ≤ most := by
  cases hget : fields.get? "required" with
  | none =>
      have hnil : required ⟨fields⟩ = [] := by
        unfold required Node.strings? Node.array? Node.value?
        rw [hget]
        rfl
      rw [hnil]
      exact Nat.zero_le _
  | some value =>
      obtain ⟨names, rfl⟩ := h.requiredShape value hget
      rw [required_eq_of_get? hget]
      exact h.required_le names most hget hmost

/-- The selected names keep the bounds because nothing is brought along, and those
of a closed object are declared because nothing can be made up. -/
theorem admitsSelection_of_isSelection (h : PlainFields fields) {names : List String}
    (hnames : IsSelection ⟨fields⟩ names) : AdmitsSelection fields names := by
  obtain ⟨chosen, brought, made, heq, hchosen, hbrought, hmade, -⟩ := hnames.parts
  refine ⟨hnames.nodup, h.admitsSize (fun n hn => ?_) (fun n hn => ?_), ?_, ?_⟩
  · have hle := hnames.least_le
    have hcount : (⟨fields⟩ : Node).count? "minProperties" = some n := hn
    rwa [hcount] at hle
  · have hle := hnames.le_most n hn (bringsNothing_of_plain h)
    have hdistinct : (required ⟨fields⟩).eraseDups.length ≤ n := by
      rcases h.count?_cases .properties (.inr rfl) with ⟨-, hnone⟩ | ⟨m, hget, hcount, -⟩
      · rw [hnone] at hn
        cases hn
      · obtain rfl := Option.some.inj (hcount.symm.trans hn)
        exact required_length_le h hget
    have hleast : ((⟨fields⟩ : Node).count? "minProperties").getD 0 ≤ n := by
      cases hmin : (⟨fields⟩ : Node).count? "minProperties" with
      | none => exact Nat.zero_le n
      | some least => exact h.count?_ordered .properties hmin hn
    omega
  · intro list name hget hmem
    obtain ⟨given, hshape⟩ := h.requiredShape _ hget
    obtain rfl := Json.array.inj hshape
    have hmem : name ∈ given := by simpa using hmem
    have hrequired : name ∈ (required ⟨fields⟩).eraseDups := by
      rw [List.mem_eraseDups, required_eq_of_get? hget]
      exact hmem
    rw [heq]
    simp [hrequired]
  · intro hclosed name hname hadditional
    have hundeclared : name ∉ Fields.names (((⟨fields⟩ : Node).object? "properties").getD []) := by
      intro hmem
      obtain ⟨table, hget, hin⟩ := mem_declared hmem
      exact hadditional table hget hin
    have hgiven : name ∉ (required ⟨fields⟩).eraseDups ++ chosen := by
      intro hmem
      rcases List.mem_append.mp hmem with hmem | hmem
      · cases hget : fields.get? "required" with
        | none =>
            unfold required Node.strings? Node.array? Node.value? at hmem
            rw [hget] at hmem
            cases hmem
        | some value =>
            obtain ⟨given, rfl⟩ := h.requiredShape value hget
            rw [List.mem_eraseDups, required_eq_of_get? hget] at hmem
            obtain ⟨table, htable, hin⟩ := h.required_declared given hget hclosed name hmem
            exact hadditional table htable hin
      · exact hundeclared (List.mem_filter.mp (hchosen.subset hmem)).1
    rw [heq] at hname
    rcases List.mem_append.mp hname with hname | hname
    · rcases List.mem_append.mp hname with hname | hname
      · exact hgiven hname
      · obtain ⟨origin, horigin, hsteps⟩ := hbrought name hname
        rcases hsteps.cases_head with rfl | ⟨_, ⟨table, htable, items, hget, -⟩, -⟩
        · exact hgiven horigin
        · exact bringsNothing_of_plain h table htable _ items hget
    · have hnotOpen : isOpen ⟨fields⟩ = false :=
        isOpen_eq_false.mpr hclosed
      cases hmade name hname with
      | word hopen _ => exact absurd (hopen.symm.trans hnotOpen) (by simp)
      | suffixed _ hopen _ => exact absurd (hopen.symm.trans hnotOpen) (by simp)
      | drawn _ hpatterns hp _ =>
          obtain rfl := Except.ok.inj (hpatterns.symm.trans (namePatterns_eq h))
          cases hp

theorem select_admits {σ : Type} [Source σ] (h : PlainFields fields) :
    Ensures (select ⟨fields⟩ : Draw σ SchemaError (List String))
      (AdmitsSelection fields) IsMalformed := by
  refine (select_fills ⟨fields⟩).imp ?_ fun e he => he.category (namePatterns_eq h)
  rintro names ⟨chosen, hchoice, hfilling⟩
  exact admitsSelection_of_isSelection h (hfilling.isSelection hchoice)

end Specimen.PropertyNames
