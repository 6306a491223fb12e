import Specimen.Proofs.Draw.Follows
import Specimen.Proofs.Random.Pick
import Specimen.Proofs.Schema.Reading
import Specimen.Schema.PropertyNames
import Specimen.Schema.PropertyTable

/-!
# Reading the schemas inside

What comes out of two nodes that read alike where the schemas inside are read: the same
names are selected, and the tables of property schemas give related schemas for one name.
The overlays of two nodes are related if the branches keep fields related that they are
laid over (`Overlay.resolve_related`). This is where branches must be alike rather than
related as schemas: laying keywords over others mixes their values.
-/

namespace Specimen

open Draw

variable {R : Json → Json → Prop} {node node' : Node}

/-! ## Tables -/

/-- A table of schemas that is not given counts as empty. -/
theorem Node.ReadsAlike.table (h : Node.ReadsAlike bareKeywords R node node') {key : String}
    (hkey : key ∈ tableKeywords) :
    TableAlike R ((node.object? key).getD []) ((node'.object? key).getD []) := by
  have hother : key ≠ "additionalProperties" ∧ key ≠ "items" := by
    rcases List.mem_cons.mp hkey with rfl | hkey
    · decide
    · rw [List.mem_singleton.mp hkey]
      decide
  have hrel := h key (mem_bareKeywords_of_table key hkey)
  unfold Node.object?
  generalize node.value? key = a?, node'.value? key = b? at hrel ⊢
  cases hrel with
  | none => exact .nil
  | @some a b hab =>
      cases hab with
      | same h =>
          cases a with
          | object f =>
              rw [schemasUnder_table hkey] at h
              exact .refl fun field hmem => h _ (List.mem_map_of_mem hmem)
          | _ => exact .nil
      | table _ h => exact h
      | schema hmem _ => exact (hmem.elim hother.1 hother.2).elim
      | schemas _ _ => exact .nil

/-! ## Names -/

namespace PropertyNames

theorem required_eq (h : Node.ReadsSame node node') : required node = required node' := by
  unfold required Node.strings?
  rw [h.array? (by decide)]

theorem optional_eq (h : Node.ReadsAlike bareKeywords R node node') :
    optional node = optional node' := by
  unfold optional
  rw [required_eq h.same, (h.table (by decide)).names_eq]

theorem optionalCounts_eq (h : Node.ReadsAlike bareKeywords R node node') :
    optionalCounts node = optionalCounts node' := by
  unfold optionalCounts
  rw [required_eq h.same, optional_eq h,
    h.same.count? (by decide : "maxProperties" ∈ plainKeywords),
    h.same.count? (by decide : "minProperties" ∈ plainKeywords)]

theorem dependencyTables_eq (h : Node.ReadsSame node node') :
    dependencyTables node = dependencyTables node' := by
  refine List.filterMap_congr fun key hkey => h.object? ?_
  rcases List.mem_cons.mp hkey with rfl | hkey
  · decide
  · rw [List.mem_singleton.mp hkey]
    decide

theorem isOpen_eq (h : Node.ReadsAlike bareKeywords R node node') : isOpen node = isOpen node' := by
  have hrel := h "additionalProperties" (by decide)
  unfold isOpen
  -- the values are told apart by their shapes, whichever the keyword
  generalize node.value? "additionalProperties" = a?,
    node'.value? "additionalProperties" = b? at hrel ⊢
  generalize "additionalProperties" = key at hrel
  cases hrel with
  | none => rfl
  | some hab => cases hab <;> rfl

theorem fill_eq {σ : Type} [Source σ] (h : Node.ReadsAlike bareKeywords R node node')
    (names : List String) :
    (fill node names : Draw σ SchemaError (List String)) = fill node' names := by
  unfold fill namePatterns
  rw [h.same.count? (by decide), isOpen_eq h, (h.table (by decide)).names_eq]

/-- Names are selected without a look at the schemas inside. -/
theorem select_eq {σ : Type} [Source σ] (h : Node.ReadsAlike bareKeywords R node node') :
    (select node : Draw σ SchemaError (List String)) = select node' := by
  unfold select close
  simp only [required_eq h.same, optional_eq h, optionalCounts_eq h, dependencyTables_eq h.same,
    fill_eq h]

end PropertyNames

/-! ## Property schemas -/

namespace PropertyTable

/-- Tables that give related schemas for every name. -/
structure Alike (R : Json → Json → Prop) (table table' : PropertyTable) : Prop where
  declared : TableAlike R table.declared table'.declared
  patterns : List.Forall₂ (fun p q => p.1 = q.1 ∧ R p.2 q.2) table.patterns table'.patterns
  additional : Option.Rel R table.additional table'.additional

theorem compileAll_alike : ∀ {f g : Fields}, TableAlike R f g →
    SameEnd (List.Forall₂ fun p q => p.1 = q.1 ∧ R p.2 q.2) (· = ·) (compileAll f) (compileAll g)
  | _, _, .nil => .ok .nil
  | _, _, @TableAlike.cons _ name a b f g hab hrest => by
      have ih := compileAll_alike hrest
      unfold compileAll
      cases Matcher.compile name with
      | error e => exact .error rfl
      | ok m =>
          generalize compileAll f = r, compileAll g = r' at ih
          cases ih with
          | ok h => exact .ok (.cons ⟨rfl, hab⟩ h)
          | error h => exact .error h

theorem additional_alike (h : Node.ReadsAlike bareKeywords R node node') :
    Option.Rel R ((node.value? "additionalProperties").filter Json.isObject)
      ((node'.value? "additionalProperties").filter Json.isObject) := by
  have hrel := h "additionalProperties" (by decide)
  generalize node.value? "additionalProperties" = a?,
    node'.value? "additionalProperties" = b? at hrel ⊢
  cases hrel with
  | none => exact .none
  | @some a b hab =>
      cases hab with
      | same h =>
          cases a with
          | object f => exact .some (h _ (List.mem_singleton_self _))
          | _ => exact .none
      | table hmem _ => exact absurd hmem (by decide)
      | schema _ h => exact .some h
      | schemas _ _ => exact .none

theorem ofNode_alike (h : Node.ReadsAlike bareKeywords R node node') :
    SameEnd (Alike R) (· = ·) (ofNode node) (ofNode node') := by
  have hpatterns := compileAll_alike (h.table (by decide : "patternProperties" ∈ tableKeywords))
  unfold ofNode
  generalize compileAll ((node.object? "patternProperties").getD []) = r,
    compileAll ((node'.object? "patternProperties").getD []) = r' at hpatterns
  cases hpatterns with
  | ok hpatterns => exact .ok ⟨h.table (by decide), hpatterns, additional_alike h⟩
  | error h => exact .error h

theorem Alike.lookup {table table' : PropertyTable} (h : Alike R table table') (name : String) :
    Option.Rel R (table.lookup name) (table'.lookup name) := by
  have hdeclared := h.declared.get? name
  have hfind : Option.Rel (fun p q => R p.2 q.2)
      (table.patterns.find? fun entry => entry.1.isMatch name)
      (table'.patterns.find? fun entry => entry.1.isMatch name) := by
    generalize table.patterns = ps, table'.patterns = qs, h.patterns = hpatterns
    induction hpatterns with
    | nil => exact .none
    | @cons p q ps qs hpq _ ih =>
        rw [List.find?_cons, List.find?_cons, hpq.1]
        cases q.1.isMatch name with
        | true => exact .some hpq.2
        | false => exact ih
  unfold PropertyTable.lookup
  generalize table.declared.get? name = a?, table'.declared.get? name = b? at hdeclared
  cases hdeclared with
  | some hab => exact .some hab
  | none =>
      generalize (table.patterns.find? fun entry => entry.1.isMatch name) = p?,
        (table'.patterns.find? fun entry => entry.1.isMatch name) = q? at hfind
      cases hfind with
      | some hpq => exact .some hpq
      | none => exact h.additional

end PropertyTable

/-! ## Overlays -/

namespace Overlay

/-- Branches that keep related fields related when they are laid over them. -/
def BranchRelated (N : Fields → Fields → Prop) (a b : Json) : Prop :=
  SameEnd (fun branch branch' : Node =>
    ∀ f g, N f g → N (lay f branch.fields) (lay g branch'.fields)) (· = ·)
      (Node.ofJson a) (Node.ofJson b)

variable {N : Fields → Fields → Prop}

theorem layAll_related {as bs : List Json} (h : List.Forall₂ (BranchRelated N) as bs) :
    ∀ {f g : Fields}, N f g → SameEnd N (· = ·) (layAll f as) (layAll g bs) := by
  induction h with
  | nil => exact fun h => .ok h
  | @cons a b as bs hab _ ih =>
      intro f g hfg
      unfold BranchRelated at hab
      unfold layAll
      generalize Node.ofJson a = r, Node.ofJson b = r' at hab
      cases hab with
      | ok hlay => exact ih (hlay f g hfg)
      | error h => exact .error h

variable {σ ε : Type} [Source σ] {B : Json → Json → Prop} {F : ε → ε → Prop}

/-- The same branches are chosen, since only their number counts. -/
theorem branches_follows
    (h : ∀ key ∈ keywords, Option.Rel (List.Forall₂ B) (node.array? key) (node'.array? key))
    (hF : ∀ e, F e e) :
    Follows (Option.Rel (List.Forall₂ B)) F
      (fun _ => (branches node : Draw σ ε (Option (List Json)))) (branches node') := by
  have hall := h "allOf" (by decide)
  have hany := h "anyOf" (by decide)
  have hone := h "oneOf" (by decide)
  unfold branches
  generalize node.array? "allOf" = a?, node'.array? "allOf" = b? at hall
  cases hall with
  | some hall => exact follows_pure (.some hall)
  | none =>
      generalize node.array? "anyOf" = a?, node'.array? "anyOf" = b? at hany
      cases hany with
      | some hany => exact (subset_follows hany hF).bind fun _ _ hsome => follows_pure (.some hsome)
      | none =>
          generalize node.array? "oneOf" = a?, node'.array? "oneOf" = b? at hone
          cases hone with
          | none => exact follows_pure .none
          | some hone =>
              refine (element_follows hone hF).bind fun a? b? hchosen => follows_pure (.some ?_)
              cases hchosen with
              | none => exact .nil
              | some hab => exact .cons hab .nil

/-- The overlays of related nodes are related if their branches keep fields so. -/
theorem resolve_related {F : SchemaError → SchemaError → Prop}
    (hbranches : ∀ key ∈ keywords,
      Option.Rel (List.Forall₂ (BranchRelated N)) (node.array? key) (node'.array? key))
    (hbase : N (base node) (base node')) (hF : ∀ e, F e e) :
    Follows (Option.Rel fun n n' : Node => N n.fields n'.fields) F
      (fun _ => (resolve node : Draw σ SchemaError (Option Node))) (resolve node') := by
  refine (branches_follows hbranches hF).bind fun a? b? hlayers => ?_
  cases hlayers with
  | none => exact follows_pure .none
  | some hlayers =>
      have hend := layAll_related hlayers hbase
      refine (Follows.imp (follows_ofExcept hend) (fun _ _ h => h) ?_).bind fun f g hfg =>
        follows_pure (.some hfg)
      rintro e _ rfl
      exact hF e

/-! ## Overlays that are alike -/

theorem lay_alike {branch branch' : Fields} (hbranch : FieldsAlike R branch branch') :
    ∀ {f g : Fields}, FieldsAlike R f g → FieldsAlike R (lay f branch) (lay g branch') := by
  induction branch generalizing branch' with
  | nil =>
      cases hbranch
      exact fun h => h
  | cons field branch ih =>
      cases hbranch with
      | cons hab hrest => exact fun h => ih hrest (h.insert hab)

theorem branchRelated_self (a : Json) : BranchRelated (FieldsAlike R) a a := by
  cases a with
  | object f => exact .ok fun _ _ => lay_alike (.refl f)
  | _ => exact .error rfl

theorem forall₂_branchRelated {as bs : List Json} (h : BranchesAlike R as bs) :
    List.Forall₂ (BranchRelated (FieldsAlike R)) as bs := by
  induction as generalizing bs with
  | nil =>
      cases h
      exact .nil
  | cons a as ih =>
      cases h with
      | same a hrest => exact .cons (branchRelated_self a) (ih hrest)
      | inside h hrest => exact .cons (.ok fun _ _ => lay_alike h) (ih hrest)

theorem array?_alike (h : FieldsAlike R node.fields node'.fields) {key : String}
    (hkey : key ∈ keywords) :
    Option.Rel (List.Forall₂ (BranchRelated (FieldsAlike R)))
      (node.array? key) (node'.array? key) := by
  have hrel : Option.Rel (ValueAlike R key) (node.value? key) (node'.value? key) := h.get? key
  unfold Node.array?
  generalize node.value? key = a?, node'.value? key = b? at hrel ⊢
  cases hrel with
  | none => exact .none
  | @some a b hab =>
      cases hab with
      | same =>
          cases a with
          | array items => exact .some (List.forall₂_same.mpr fun a _ => branchRelated_self a)
          | _ => exact .none
      | table _ _ => exact .none
      | additional _ => exact .none
      | item _ => exact .none
      | tuple _ => exact absurd hkey (by decide)
      | branches _ h => exact .some (forall₂_branchRelated h)

theorem base_alike {f g : Fields} (h : FieldsAlike R f g) :
    FieldsAlike R (base ⟨f⟩) (base ⟨g⟩) := by
  induction f generalizing g with
  | nil =>
      cases h
      exact .nil
  | cons field f ih =>
      cases h with
      | @cons key a b _ g hab hrest =>
          have ih := ih hrest
          unfold base at ih ⊢
          by_cases hkey : (!keywords.contains key) = true
          · simp only [List.filter_cons, if_pos hkey]
            exact .cons hab ih
          · simp only [List.filter_cons, if_neg hkey]
            exact ih

/-- The overlays of nodes that are alike are alike. -/
theorem resolve_follows {F : SchemaError → SchemaError → Prop}
    (h : FieldsAlike R node.fields node'.fields) (hF : ∀ e, F e e) :
    Follows (Option.Rel fun n n' : Node => FieldsAlike R n.fields n'.fields) F
      (fun _ => (resolve node : Draw σ SchemaError (Option Node))) (resolve node') :=
  resolve_related (fun _ hkey => array?_alike h hkey) (base_alike h) hF

end Overlay

end Specimen
