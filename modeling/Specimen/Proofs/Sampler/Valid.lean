import Specimen.Proofs.Sampler.Plain
import Specimen.Proofs.Schema.Loading
import Specimen.Proofs.Schema.Overlaid

/-!
# Samples are valid documents

A sample of a valid schema is a valid document if the loaded documents are
(`Sampler.sample_isValid`). Numbers are checked where they are made, objects put their fields
in order, and every other value is taken from the schema or from a document that a reference
has led to. One step of the descent keeps this, given that the descents it makes do
(`Sampler.step_isValid`).
-/

namespace Specimen

open Draw

variable {σ : Type} [Source σ]

/-! ## Nodes -/

namespace Json

theorem isValid_object_nil : (object []).IsValid := .object Fields.isOrdered_nil nofun

theorem IsValid.insert {fields : Fields} {name : String} {v : Json}
    (h : (Json.object fields).IsValid) (hv : v.IsValid) :
    (Json.object (Fields.insert name v fields)).IsValid := by
  cases h with
  | object hordered h =>
      refine .object hordered.insert fun field hfield => ?_
      rcases Fields.mem_insert hfield with rfl | hfield
      · exact hv
      · exact h field hfield

end Json

/-- The node is a valid document. -/
def Node.IsValid (node : Node) : Prop := node.toJson.IsValid

namespace Node

variable {node : Node} {keyword : String}

theorem isValid_of_ofJson {d : Json} (hd : d.IsValid) (h : ofJson d = .ok node) : node.IsValid := by
  cases d with
  | object fields =>
      cases h
      exact hd
  | _ => cases h

theorem IsValid.value? (h : node.IsValid) {v : Json} (hv : node.value? keyword = some v) :
    v.IsValid := Json.IsValid.get? h hv

theorem IsValid.array? (h : node.IsValid) {items : List Json}
    (hitems : node.array? keyword = some items) : ∀ item ∈ items, item.IsValid := by
  obtain ⟨v, hv, harray⟩ := Option.bind_eq_some_iff.mp hitems
  cases v with
  | array _ =>
      cases harray
      cases h.value? hv with
      | array h => exact h
  | _ => cases harray

theorem IsValid.object? (h : node.IsValid) {fields : Fields}
    (hfields : node.object? keyword = some fields) : (Json.object fields).IsValid := by
  obtain ⟨v, hv, hobject⟩ := Option.bind_eq_some_iff.mp hfields
  cases v with
  | object _ =>
      cases hobject
      exact h.value? hv
  | _ => cases hobject

/-- A table that is not given counts as empty, which is valid. -/
theorem IsValid.table (h : node.IsValid) :
    (Json.object ((node.object? keyword).getD [])).IsValid := by
  cases hfields : node.object? keyword with
  | none => exact Json.isValid_object_nil
  | some fields => exact h.object? hfields

end Node

/-! ## Overlaid branches -/

namespace Overlay

variable {node : Node} {fields branch : Fields} {layers : List Json}

theorem base_isValid (h : node.IsValid) : (Json.object (base node)).IsValid := by
  unfold base
  cases h with
  | object hordered h =>
      refine .object ?_ fun field hfield => h field (List.mem_filter.mp hfield).1
      exact hordered.sublist (List.filter_sublist.map _)

theorem lay_isValid (h : (Json.object fields).IsValid) (hbranch : (Json.object branch).IsValid) :
    (Json.object (lay fields branch)).IsValid := by
  have hmembers : ∀ field ∈ branch, field.2.IsValid := by
    cases hbranch with
    | object _ hmembers => exact hmembers
  clear hbranch
  unfold lay
  induction branch generalizing fields with
  | nil => exact h
  | cons field rest ih =>
      exact ih (h.insert (hmembers field List.mem_cons_self))
        fun other hother => hmembers other (List.mem_cons_of_mem _ hother)

theorem layAll_isValid {merged : Fields} (h : (Json.object fields).IsValid)
    (hlayers : ∀ layer ∈ layers, layer.IsValid) (hmerged : layAll fields layers = .ok merged) :
    (Json.object merged).IsValid := by
  induction layers generalizing fields with
  | nil =>
      cases hmerged
      exact h
  | cons layer rest ih =>
      have hlayer := hlayers layer List.mem_cons_self
      cases layer with
      | object branch =>
          exact ih (lay_isValid h hlayer)
            (fun other hother => hlayers other (List.mem_cons_of_mem _ hother)) hmerged
      | _ => cases hmerged

theorem IsChoice.isValid (hchoice : IsChoice node layers) (h : node.IsValid) :
    ∀ layer ∈ layers, layer.IsValid := by
  cases hchoice with
  | all hall => exact h.array? hall
  | any _ hany hsublist => exact fun layer hlayer => h.array? hany layer (hsublist.subset hlayer)
  | one _ _ hone hmem =>
      intro layer hlayer
      rw [List.mem_singleton.mp hlayer]
      exact h.array? hone _ hmem
  | noneOf => exact nofun

theorem resolve_isValid (h : node.IsValid) :
    Ensures (resolve node : Draw σ SchemaError (Option Node))
      (fun overlaid => (overlaid.getD node).IsValid) fun _ => True := by
  refine (branches_ensures node).bind fun layers? hlayers => ?_
  cases layers? with
  | none => exact ensures_pure h
  | some layers =>
      refine Ensures.bind (Q := fun merged => (Json.object merged).IsValid)
        (ensures_ofExcept (fun merged hmerged => ?_) fun _ _ => trivial) fun merged hmerged =>
          ensures_pure hmerged
      exact layAll_isValid (base_isValid h) (hlayers.isValid h) hmerged

end Overlay

/-! ## Property schemas -/

namespace PropertyTable

/-- The schemas of a table are valid. -/
structure IsValid (table : PropertyTable) : Prop where
  declared : (Json.object table.declared).IsValid
  patterns : ∀ entry ∈ table.patterns, entry.2.IsValid
  additional : ∀ schema ∈ table.additional, schema.IsValid

theorem compileAll_isValid {fields : Fields} {entries : List (Matcher × Json)}
    (h : ∀ field ∈ fields, field.2.IsValid) (hentries : compileAll fields = .ok entries) :
    ∀ entry ∈ entries, entry.2.IsValid := by
  induction fields generalizing entries with
  | nil =>
      cases hentries
      exact nofun
  | cons field rest ih =>
      unfold compileAll at hentries
      split at hentries
      · cases hentries
      · cases hrest : compileAll rest with
        | error e =>
            rw [hrest] at hentries
            cases hentries
        | ok others =>
            rw [hrest] at hentries
            cases hentries
            refine List.forall_mem_cons.mpr ⟨h field List.mem_cons_self, ?_⟩
            exact ih (fun other hother => h other (List.mem_cons_of_mem _ hother)) hrest

theorem ofNode_isValid {node : Node} {table : PropertyTable} (h : node.IsValid)
    (htable : ofNode node = .ok table) : table.IsValid := by
  unfold ofNode at htable
  cases hpatterns : compileAll ((node.object? "patternProperties").getD []) with
  | error e =>
      rw [hpatterns] at htable
      cases htable
  | ok patterns =>
      rw [hpatterns] at htable
      cases htable
      refine ⟨h.table, compileAll_isValid ?_ hpatterns, fun schema hschema => ?_⟩
      · have hfields : (Json.object ((node.object? "patternProperties").getD [])).IsValid := h.table
        cases hfields with
        | object _ hmembers => exact hmembers
      · exact h.value? (Option.filter_eq_some_iff.mp hschema).1

theorem IsValid.lookup {table : PropertyTable} (h : table.IsValid) {name : String} {schema : Json}
    (hlookup : table.lookup name = some schema) : schema.IsValid := by
  unfold PropertyTable.lookup at hlookup
  split at hlookup
  · next hget =>
      cases hlookup
      exact h.declared.get? hget
  · split at hlookup
    · next hfind =>
        cases hlookup
        exact h.patterns _ (List.mem_of_find?_eq_some hfind)
    · exact h.additional schema hlookup

end PropertyTable

namespace Sampler

/-! ## Numbers -/

theorem isValid_of_ofDouble {x : Double} {v : Json} (h : ofDouble x = .ok v) : v.IsValid := by
  unfold ofDouble at h
  split at h
  · next hfinite =>
      cases h
      exact .number (.float hfinite)
  · cases h

theorem isValid_of_scaled {n : Int} {step : Double} {v : Json} (h : scaled n step = .ok v) :
    v.IsValid := by
  unfold scaled at h
  dsimp only at h
  split at h
  · next hfits =>
      cases h
      have hproduct := hfits.2.2
      unfold saturate int64Min int64Max at hproduct
      exact .number (.int (by unfold int64Min; omega) (by unfold uint64Max; omega))
  · exact isValid_of_ofDouble h

theorem integer_isValid (s : Sampler) (node : Node) :
    Ensures (s.integer node : Draw σ SchemaError Json) Json.IsValid fun _ => True := by
  have hdrawn (lo hi : Int) : Ensures
      (do
        let n ← intBetween lo hi
        ofExcept (scaled n node.step) : Draw σ SchemaError Json)
      Json.IsValid fun _ => True :=
    ensures_trivial.bind fun n _ =>
      ensures_ofExcept (fun v hv => isValid_of_scaled hv) fun _ _ => trivial
  unfold integer
  refine ensures_trivial.bind fun _ _ => ?_
  dsimp only
  split
  · exact ensures_trivial.bind fun _ _ => hdrawn _ _
  · exact hdrawn _ _

theorem number_isValid (s : Sampler) (node : Node) :
    Ensures (s.number node : Draw σ SchemaError Json) Json.IsValid fun _ => True := by
  unfold number
  refine ensures_trivial.bind fun _ _ => ?_
  dsimp only
  split
  · refine ensures_trivial.bind fun _ _ => ensures_trivial.bind fun n _ => ?_
    exact ensures_ofExcept (fun v hv => isValid_of_scaled hv) fun _ _ => trivial
  · refine ensures_trivial.bind fun x _ => ?_
    exact ensures_ofExcept (fun v hv => isValid_of_ofDouble hv) fun _ _ => trivial

/-! ## Strings -/

theorem string_isValid (node : Node) :
    Ensures (string node : Draw σ SchemaError Json) Json.IsValid fun _ => True := by
  unfold string
  refine ensures_trivial.bind fun format? _ => ?_
  cases format? with
  | some format => exact ensures_trivial.bind fun text _ => ensures_pure (.string text)
  | none =>
      cases node.string? "pattern" with
      | some source =>
          exact ensures_trivial.bind fun _ _ => ensures_trivial.bind fun text _ =>
            ensures_pure (.string text)
      | none => exact ensures_trivial.bind fun _ _ => ensures_pure (.string _)

/-! ## Containers -/

/-- Valid schemas have valid samples. -/
def Descent.KeepsValid (descend : Descent σ) : Prop :=
  ∀ schema parent, schema.IsValid → (∀ d ∈ parent, d.IsValid) →
    Ensures (descend schema parent) Json.IsValid fun _ => True

variable {descend : Descent σ} {node : Node} {scope : Json}

omit [Source σ] in
theorem Descent.KeepsValid.within (hdescend : descend.KeepsValid) {schema : Json}
    (hschema : schema.IsValid) (hscope : scope.IsValid) :
    Ensures (descend schema scope) Json.IsValid fun _ => True :=
  hdescend schema scope hschema fun _ h => Option.some.inj h ▸ hscope

theorem isValid_toSchema (kind : Kind) : kind.toSchema.IsValid :=
  .object (List.pairwise_singleton ..) fun field hfield => by
    rw [List.mem_singleton.mp hfield]
    exact .string kind.name

theorem anySchema_isValid :
    Ensures (anySchema : Draw σ SchemaError Json) Json.IsValid fun _ => True :=
  ensures_trivial.bind fun kind? _ => ensures_pure (isValid_toSchema (kind?.getD .null))

theorem itemSchemas_isValid (h : node.IsValid) :
    Ensures (itemSchemas node : Draw σ SchemaError (List Json))
      (fun schemas => ∀ schema ∈ schemas, schema.IsValid) fun _ => True := by
  unfold itemSchemas
  cases hitems : node.value? "items" with
  | none =>
      exact anySchema_isValid.bind fun schema hschema =>
        ensures_pure (List.forall_mem_singleton.mpr hschema)
  | some value =>
      have hvalue := h.value? hitems
      cases value with
      | object fields =>
          exact ensures_pure (List.forall_mem_singleton.mpr hvalue)
      | array schemas =>
          cases hvalue with
          | array hschemas => exact ensures_pure hschemas
      | _ => exact ensures_fail trivial

theorem mem_of_mem_distinctItems {items kept : List Json} {item : Json}
    (h : item ∈ distinctItems kept items) : item ∈ kept ∨ item ∈ items := by
  induction items generalizing kept with
  | nil => exact .inl (List.mem_reverse.mp h)
  | cons first rest ih =>
      unfold distinctItems at h
      split at h
      · exact (ih h).imp_right (List.mem_cons_of_mem _)
      · rcases ih h with h | h
        · rcases List.mem_cons.mp h with rfl | h
          · exact .inr List.mem_cons_self
          · exact .inl h
        · exact .inr (List.mem_cons_of_mem _ h)

theorem array_isValid (hdescend : descend.KeepsValid) (h : node.IsValid) (hscope : scope.IsValid) :
    Ensures (array descend node scope) Json.IsValid fun _ => True := by
  have hfilled (schemas : List Json) (count : Nat) (hschemas : ∀ schema ∈ schemas, schema.IsValid) :
      Ensures
      (do
        let items ← Draw.sequence ((slotSchemas schemas count).map fun a => descend a scope)
        return .array (if node.flag "uniqueItems" then distinctItems [] items
          else items) : Draw σ SchemaError Json)
      Json.IsValid fun _ => True := by
    refine (ensures_sequence_forall fun schema hmem =>
      hdescend.within (hschemas schema (mem_of_mem_slotSchemas hmem)) hscope).bind
        fun items hitems => ensures_pure (.array fun item hitem => ?_)
    split at hitem
    · exact hitems item ((mem_of_mem_distinctItems hitem).resolve_left List.not_mem_nil)
    · exact hitems item hitem
  unfold array
  refine (itemSchemas_isValid h).bind fun schemas hschemas => ensures_trivial.bind fun count _ => ?_
  dsimp only
  split
  · exact anySchema_isValid.bind fun schema hschema =>
      hfilled [schema] count (List.forall_mem_singleton.mpr hschema)
  · exact hfilled schemas count hschemas

theorem property_isValid (hdescend : descend.KeepsValid) {table : PropertyTable}
    (htable : table.IsValid) (hscope : scope.IsValid) (name : String) :
    Ensures (property descend table scope name) (fun field => field.2.IsValid) fun _ => True := by
  have hvalue {schema : Json} (hschema : schema.IsValid) :
      Ensures (do return (name, ← descend schema scope) : Draw σ SchemaError (String × Json))
        (fun field => field.2.IsValid) fun _ => True :=
    (hdescend.within hschema hscope).bind fun v hv => ensures_pure hv
  unfold property
  cases hlookup : table.lookup name with
  | none => exact anySchema_isValid.bind fun schema hschema => hvalue hschema
  | some schema => exact hvalue (htable.lookup hlookup)

theorem object_isValid (hdescend : descend.KeepsValid) (h : node.IsValid) (hscope : scope.IsValid) :
    Ensures (object descend node scope) Json.IsValid fun _ => True := by
  unfold object
  refine ensures_trivial.bind fun names _ => ?_
  refine Ensures.bind (Q := PropertyTable.IsValid)
    (ensures_ofExcept (fun table htable => PropertyTable.ofNode_isValid h htable)
      fun _ _ => trivial) fun table htable => ?_
  refine (ensures_sequence_forall fun name _ =>
    property_isValid hdescend htable hscope name).bind fun fields hfields => ?_
  exact ensures_pure (.object (Fields.isOrdered_ofList fields)
    fun field hfield => hfields field (Fields.mem_ofList hfield))

/-! ## The descent -/

variable (s : Sampler) {parent : Option Json}

theorem ofKind_isValid (hdescend : descend.KeepsValid) (h : node.IsValid) (hscope : scope.IsValid)
    (kind : Kind) : Ensures (s.ofKind descend node scope kind) Json.IsValid fun _ => True := by
  cases kind with
  | null => exact ensures_pure .null
  | boolean => exact ensures_trivial.bind fun b _ => ensures_pure (.bool b)
  | integer => exact s.integer_isValid node
  | number => exact s.number_isValid node
  | string => exact string_isValid node
  | array => exact array_isValid hdescend h hscope
  | object => exact object_isValid hdescend h hscope

omit [Source σ] in
theorem isValid_getD_parent (h : node.IsValid) (hparent : ∀ d ∈ parent, d.IsValid) :
    (parent.getD node.toJson).IsValid := by
  cases parent with
  | none => exact h
  | some d => exact hparent d rfl

omit [Source σ] in
theorem isValid_scopeOf (h : node.IsValid) (hparent : ∀ d ∈ parent, d.IsValid) :
    (s.scopeOf node parent).IsValid := by
  unfold scopeOf
  split
  · exact h
  · exact isValid_getD_parent h hparent

omit [Source σ] in
theorem follow_isValid (hdescend : descend.KeepsValid) (hloader : s.loader.LoadsValid)
    (reference : String) (h : node.IsValid) (hparent : ∀ d ∈ parent, d.IsValid) :
    Ensures (s.follow descend reference node parent) Json.IsValid fun _ => True := by
  unfold follow
  refine Ensures.bind (Q := Resolved.IsValid) (ensures_ofExcept (fun r hr => ?_) fun _ _ => trivial)
    fun r hr => ?_
  · refine Reference.isValid_of_resolve ?_ hloader hr
    split
    · exact hparent
    · rintro _ ⟨⟩
      exact isValid_getD_parent h hparent
  · cases r with
    | inline target scope => exact hdescend.within hr.1 hr.2
    | document d => exact hdescend d parent hr hparent
    | fragment d pointer =>
        dsimp only
        cases hwalk : d.walk? pointer with
        | none => exact ensures_fail trivial
        | some target => exact hdescend.within (Json.IsValid.walk? hr hwalk) hr

theorem ofNode_isValid (hdescend : descend.KeepsValid) (hloader : s.loader.LoadsValid)
    (h : node.IsValid) (hparent : ∀ d ∈ parent, d.IsValid) :
    Ensures (s.ofNode descend node parent) Json.IsValid fun _ => True := by
  unfold ofNode
  split
  · cases node.string? "$ref" with
    | none => exact ensures_fail trivial
    | some reference => exact s.follow_isValid hdescend hloader reference h hparent
  split
  · refine (element_ensures _).bind fun member? hmember => ?_
    rcases hmember with ⟨-, rfl⟩ | ⟨member, hmem, rfl⟩
    · exact ensures_fail trivial
    · refine ensures_pure ?_
      cases hmembers : node.array? "enum" with
      | none =>
          rw [hmembers] at hmem
          cases hmem
      | some members =>
          rw [hmembers] at hmem
          exact h.array? hmembers member hmem
  · cases hconst : node.value? "const" with
    | some constant => exact ensures_pure (h.value? hconst)
    | none =>
        exact ensures_trivial.bind fun kind _ =>
          s.ofKind_isValid hdescend h (s.isValid_scopeOf h hparent) kind

/-- One step of the descent, if the descents that it makes give valid documents. -/
theorem step_isValid (hdescend : descend.KeepsValid) (hloader : s.loader.LoadsValid) :
    (s.step descend).KeepsValid := by
  intro schema parent hschema hparent
  unfold step
  refine Ensures.bind (Q := Node.IsValid)
    (ensures_ofExcept (fun node hnode => Node.isValid_of_ofJson hschema hnode) fun _ _ => trivial)
    fun node hnode => ?_
  exact (Overlay.resolve_isValid hnode).bind fun overlaid hoverlaid =>
    s.ofNode_isValid hdescend hloader hoverlaid hparent

theorem value_isValid (hloader : s.loader.LoadsValid) (depth : Nat) :
    (s.value depth : Descent σ).KeepsValid := by
  induction depth with
  | zero => exact fun _ _ _ _ => ensures_endless
  | succ depth ih => exact s.step_isValid ih hloader

/-- A sample of a valid schema is valid. -/
theorem sample_isValid (hloader : s.loader.LoadsValid) {schema : Json} (hschema : schema.IsValid) :
    Ensures (s.sample schema : Draw σ SchemaError Json) Json.IsValid fun _ => True :=
  ensures_limit.bind fun depth _ => s.value_isValid hloader depth schema none hschema nofun

end Sampler

end Specimen
