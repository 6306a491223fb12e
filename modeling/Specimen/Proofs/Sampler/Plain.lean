import Specimen.Proofs.Random.Pick
import Specimen.Proofs.Schema.PlainSelection
import Specimen.Sampler

/-!
# Samples of plain schemas conform

What is drawn for a node is an instance of it, kind by kind, if what is drawn for
the schemas inside is; the descent takes this from one depth to the next
(`value_conforms`). It never matters which source is drawn from and what the
settings are.

A plain schema can still ask for what cannot be: integers between bounds that
cross, or more names than a closed object declares. Those are the failures that
are left, and all of them are malformed schemas.
-/

namespace Specimen

namespace Sampler

open Draw SchemaError

variable {σ : Type} [Source σ] {fields : Fields} {E : SchemaError → Prop}

/-! ## Kinds -/

theorem ofName_name (kind : Kind) : Kind.ofName kind.name = .ok kind := by
  cases kind <;> rfl

/-- A kind that is drawn is one that the node names. -/
theorem kind_ensures (h : PlainFields fields) :
    Ensures (kind ⟨fields⟩ : Draw σ SchemaError Kind)
      (fun k => ∃ value, fields.get? "type" = some value ∧ NamesKind value k) E := by
  unfold kind Node.value?
  rcases h.type with ⟨k, hget⟩ | ⟨kinds, hne, hget⟩
  · simp only [hget, ofName_name]
    exact ensures_pure ⟨_, rfl, .inl rfl⟩
  · simp only [hget]
    refine (element_ensures _).bind fun name? hname => ?_
    rcases hname with ⟨hnil, -⟩ | ⟨name, hmem, rfl⟩
    · exact absurd (List.map_eq_nil_iff.mp hnil) hne
    · obtain ⟨k, -, rfl⟩ := List.mem_map.mp hmem
      simp only [ofName_name]
      exact ensures_pure ⟨_, rfl, .inr ⟨_, rfl, hmem⟩⟩

theorem admitsValue_of_holds (h : PlainFields fields) {value v : Json} {k : Kind}
    (hget : fields.get? "type" = some value) (hnames : NamesKind value k) (hv : k.Holds v) :
    AdmitsValue fields v where
  type value' hget' := by
    obtain rfl := Option.some.inj (hget.symm.trans hget')
    exact ⟨k, hnames, hv⟩
  constant c hc := by
    rw [h.absent "const" (by decide)] at hc
    cases hc
  choice members hmembers := by
    rw [h.absent "enum" (by decide)] at hmembers
    cases hmembers

/-! ## Numbers -/

theorem drawsFactors_eq_false (s : Sampler) (h : PlainFields fields) :
    s.drawsFactors ⟨fields⟩ = false := by
  unfold drawsFactors
  rw [(h.lacks (by decide)).has, Bool.and_false]

theorem scaled_one {n : Int} (hn : int64Min ≤ n ∧ n ≤ int64Max) :
    scaled n (.ofInt 1) = .ok (.number (.int n)) := by
  have hone : (Double.ofInt 1).toInt64 = 1 := (Double.isInt_ofInt (by decide)).toInt64 (by decide)
  have hsmall : (Double.ofInt 1).isIntegral = true
      ∧ (Double.ofInt 1).abs < .ofInt 0x8000_0000_0000_0000 := by
    decide +kernel
  have hsaturate : saturate n = n := by
    unfold saturate
    omega
  unfold scaled
  dsimp only
  rw [hone, Int.mul_one, if_pos ⟨hsmall.1, hsmall.2, hsaturate⟩]

theorem integer_ensures (s : Sampler) (h : PlainFields fields) :
    Ensures (s.integer ⟨fields⟩ : Draw σ SchemaError Json)
      (fun v => ∃ n : Int, v = .number (.int n) ∧ AdmitsNumber fields (.int n)) IsMalformed := by
  unfold integer
  rcases h.integerRange_spec with ⟨lo, hi, hrange, hle, hmin, hmax, hadmits⟩ | ⟨lo, hi, hrange⟩
  · rw [hrange, drawsFactors_eq_false s h, h.step_eq]
    have hlo : int64Min ≤ lo ∧ lo ≤ int64Max := ⟨hmin, Int.le_trans hle hmax⟩
    have hhi : int64Min ≤ hi ∧ hi ≤ int64Max := ⟨Int.le_trans hmin hle, hmax⟩
    refine (intBetween_ensures hlo hhi).bind fun n hn => ?_
    rw [scaled_one (by omega)]
    exact ensures_pure ⟨n, rfl, hadmits n (by omega) (by omega)⟩
  · rw [hrange]
    exact ensures_fail rfl

theorem number_ensures (s : Sampler) (h : PlainFields fields)
    (hnone : ∀ side : Side, fields.get? side.plainKeyword = none) :
    Ensures (s.number ⟨fields⟩ : Draw σ SchemaError Json) (fun v => ∃ n, v = .number n)
      IsMalformed := by
  obtain ⟨lo, hi, hrange⟩ := h.numberRange_spec hnone
  unfold number
  rw [hrange, drawsFactors_eq_false s h]
  refine (doubleBetween_ensures lo hi).bind fun x _ => ?_
  unfold ofDouble
  split
  · exact ensures_pure ⟨_, rfl⟩
  · exact ensures_fail rfl

/-! ## Strings -/

theorem length_truncate (s : String) (most : Nat) :
    (truncate s most).length = min most s.length := by
  unfold truncate
  rw [String.length_ofList, List.length_take, String.length_toList]

/-- Repeating a text that is not empty reaches the least length, and cutting it
keeps to the greatest. -/
theorem length_fitLength {text : String} {greatest : Nat} (least : Nat)
    (htext : text.length ≤ greatest ∧ (0 < greatest → 0 < text.length)) :
    (fitLength text least greatest).length ≤ greatest
      ∧ (least ≤ greatest → least ≤ (fitLength text least greatest).length) := by
  unfold fitLength
  rw [length_truncate]
  refine ⟨Nat.min_le_left .., fun hle => Nat.le_min.mpr ⟨hle, ?_⟩⟩
  simp only [String.length_ofList, List.length_flatten, List.map_replicate,
    List.sum_replicate_nat, String.length_toList]
  split
  · next hshort =>
      obtain ⟨hpos, hlt⟩ := hshort
      have hdiv := Nat.div_add_mod (least + text.length - 1) text.length
      have hmod := Nat.mod_lt (least + text.length - 1) hpos
      rw [Nat.mul_comm]
      omega
  · next henough =>
      rw [Nat.one_mul]
      omega

theorem string_ensures (h : PlainFields fields) :
    Ensures (string ⟨fields⟩ : Draw σ SchemaError Json)
      (fun v => ∃ text, v = .string text ∧ AdmitsSize .length fields text.length) E := by
  obtain ⟨hleast, hgreatest⟩ := h.lengths_spec
  unfold string
  rw [h.format?_eq, (h.lacks (by decide)).string?]
  refine (text_ensures (⟨fields⟩ : Node).lengths.2).bind fun text htext => ensures_pure ?_
  obtain ⟨hmost, hreach⟩ := length_fitLength (⟨fields⟩ : Node).lengths.1 htext
  refine ⟨_, rfl, h.admitsSize (fun n hn => ?_) fun n hn => ?_⟩
  · obtain ⟨heq, hle⟩ := hleast n hn
    rw [← heq]
    exact hreach (heq.symm ▸ hle)
  · rw [← hgreatest n hn]
    exact hmost

/-! ## Schemas of random kinds -/

theorem plain_toSchema (k : Kind) : Plain k.toSchema := by
  have hother {key : String} (hkey : key ≠ "type") :
      Fields.get? [("type", .string k.name)] key = none := by
    unfold Fields.get?
    rw [if_neg fun heq => hkey heq.symm]
    rfl
  have absurd_get {key : String} {value : Json} {P : Prop} (hkey : key ≠ "type")
      (hget : Fields.get? [("type", .string k.name)] key = some value) : P := by
    rw [hother hkey] at hget
    cases hget
  have hinside {schema : Json} {P : Prop} (h : IsInside [("type", .string k.name)] schema) : P := by
    cases h with
    | item hget => exact absurd_get (by decide) hget
    | slot hget _ => exact absurd_get (by decide) hget
    | property hget _ => exact absurd_get (by decide) hget
    | additional hget => exact absurd_get (by decide) hget
  refine .typed ?_ fun _ => hinside
  refine ⟨by simp [Fields.names], fun keyword hmem => hother ?_, .inl ⟨k, rfl⟩,
    fun side _ => absurd_get (by cases side <;> decide), fun extent _ _ hkey => ?_,
    fun extent _ _ => absurd_get (by cases extent <;> decide), fun _ => absurd_get (by decide),
    fun _ => absurd_get (by decide), fun _ => absurd_get (by decide),
    fun _ _ => absurd_get (by decide), fun _ => absurd_get (by decide),
    fun _ => absurd_get (by decide), fun _ => hinside⟩
  · rintro rfl
    exact absurd hmem (by decide)
  · rcases hkey with rfl | rfl
    · exact absurd_get (by cases extent <;> decide)
    · exact absurd_get (by cases extent <;> decide)

theorem anySchema_ensures : Ensures (anySchema : Draw σ SchemaError Json) Plain E := by
  refine (element_ensures Kind.all).bind fun k? _ => ensures_pure ?_
  exact plain_toSchema _

/-! ## Arrays -/

/-- The schemas that an array is made from: given ones are the schemas of the
items, and where the keyword is absent there is still one. -/
structure ItemSchemas (fields : Fields) (schemas : List Json) : Prop where
  plain : ∀ schema ∈ schemas, Plain schema
  item : ∀ f, fields.get? "items" = some (.object f) → schemas = [.object f]
  tuple : ∀ given, fields.get? "items" = some (.array given) → given ≠ [] → schemas = given

theorem itemSchemas_ensures (h : PlainFields fields)
    (hinside : ∀ schema, IsInside fields schema → Plain schema) :
    Ensures (itemSchemas ⟨fields⟩ : Draw σ SchemaError (List Json)) (ItemSchemas fields) E := by
  unfold itemSchemas Node.value?
  cases hget : fields.get? "items" with
  | none =>
      refine anySchema_ensures.bind fun schema hschema => ensures_pure ⟨?_, ?_, ?_⟩
      · intro other hother
        rw [List.mem_singleton.mp hother]
        exact hschema
      · intro f hf
        rw [hget] at hf
        cases hf
      · intro given hgiven
        rw [hget] at hgiven
        cases hgiven
  | some value =>
      rcases h.itemsShape value hget with ⟨f, rfl⟩ | ⟨schemas, rfl⟩
      · refine ensures_pure ⟨?_, ?_, ?_⟩
        · intro schema hschema
          rw [List.mem_singleton.mp hschema]
          exact hinside _ (.item hget)
        · intro f' hf'
          rw [hget] at hf'
          cases hf'
          rfl
        · intro given hgiven
          rw [hget] at hgiven
          cases hgiven
      · refine ensures_pure ⟨fun schema hschema => hinside schema (.slot hget hschema), ?_, ?_⟩
        · intro f hf
          rw [hget] at hf
          cases hf
        · intro given hgiven _
          rw [hget] at hgiven
          cases hgiven
          rfl

/-- Every slot has a schema, the given ones in turn. -/
theorem slotSchemas_eq_map {schemas : List Json} (hne : schemas ≠ []) (count : Nat) :
    slotSchemas schemas count
      = (List.range count).map fun i => (schemas[i % schemas.length]?).getD .null := by
  have hpos : 0 < schemas.length := List.length_pos_iff.mpr hne
  unfold slotSchemas
  rw [← List.filterMap_eq_map]
  refine List.filterMap_congr fun i _ => ?_
  have hlt : i % schemas.length < schemas.length := Nat.mod_lt _ hpos
  simp [List.getElem?_eq_getElem hlt]

theorem length_slotSchemas {schemas : List Json} {count : Nat}
    (h : 0 < count → schemas ≠ []) : (slotSchemas schemas count).length = count := by
  cases count with
  | zero => rfl
  | succ count => rw [slotSchemas_eq_map (h (Nat.succ_pos _)), List.length_map, List.length_range]

theorem mem_of_mem_slotSchemas {schemas : List Json} {count : Nat} {schema : Json}
    (h : schema ∈ slotSchemas schemas count) : schema ∈ schemas := by
  obtain ⟨i, -, hi⟩ := List.mem_filterMap.mp h
  exact List.mem_of_getElem? hi

theorem slotSchemas_getElem? {schemas : List Json} {count i : Nat} (hi : i < schemas.length)
    (hlt : i < count) : (slotSchemas schemas count)[i]? = schemas[i]? := by
  have hne : schemas ≠ [] := List.length_pos_iff.mp (Nat.zero_lt_of_lt hi)
  rw [slotSchemas_eq_map hne, List.getElem?_map, List.getElem?_range hlt, Option.map_some,
    Nat.mod_eq_of_lt hi]
  simp [List.getElem?_eq_getElem hi]

/-- Items as the keywords of an array ask for them. -/
structure AdmitsItems (fields : Fields) (items : List Json) : Prop where
  size : AdmitsSize .items fields items.length
  item : ∀ f a, fields.get? "items" = some (.object f) → a ∈ items → Conforms (.object f) a
  tuple : ∀ (schemas : List Json) (i : Nat) (schema a : Json),
    fields.get? "items" = some (.array schemas) → schemas[i]? = some schema →
    items[i]? = some a → Conforms schema a

theorem array_ensures {descend : Descent σ} {scope : Json} (h : PlainFields fields)
    (hinside : ∀ schema, IsInside fields schema → Plain schema)
    (hdescend : ∀ schema, Plain schema →
      Ensures (descend schema scope) (Conforms schema) IsMalformed) :
    Ensures (array descend ⟨fields⟩ scope)
      (fun v => ∃ items, v = .array items ∧ AdmitsItems fields items) IsMalformed := by
  refine (itemSchemas_ensures h hinside).bind fun schemas hschemas => ?_
  obtain ⟨hordered, hleast, hgreatest⟩ := h.itemCounts_spec schemas.length
  refine (countBetween_ensures _ _).bind fun count hcount => ?_
  have hrange : ((⟨fields⟩ : Node).itemCounts schemas.length).1 ≤ count
      ∧ count ≤ ((⟨fields⟩ : Node).itemCounts schemas.length).2 :=
    ⟨Nat.min_eq_left hordered ▸ hcount.1, Nat.max_eq_right hordered ▸ hcount.2⟩
  -- both ways to come by the schemas, the given ones and one of a random kind, end here
  have hfill (schemas : List Json) (hschemas : ItemSchemas fields schemas)
      (hne : 0 < count → schemas ≠ []) :
      Ensures
        (do
          let items ← Draw.sequence ((slotSchemas schemas count).map fun a => descend a scope)
          return .array (if (⟨fields⟩ : Node).flag "uniqueItems" then distinctItems [] items
            else items) : Draw σ SchemaError Json)
        (fun v => ∃ items, v = .array items ∧ AdmitsItems fields items) IsMalformed := by
    refine (ensures_sequence_map fun a ha =>
      hdescend a (hschemas.plain a (mem_of_mem_slotSchemas ha))).bind fun items hitems => ?_
    rw [(h.lacks (by decide)).flag]
    have hlength : items.length = count := hitems.length_eq ▸ length_slotSchemas hne
    refine ensures_pure ⟨items, rfl, h.admitsSize (fun n hn => ?_) (fun n hn => ?_), ?_, ?_⟩
    · have heq := hleast n hn
      omega
    · have heq := hgreatest n hn
      omega
    · intro f a hf ha
      obtain ⟨i, hi, rfl⟩ := List.mem_iff_getElem.mp ha
      have hslot : i < (slotSchemas schemas count).length := hitems.length_eq ▸ hi
      have hconforms := List.Forall₂.get hitems hslot hi
      have hmem := mem_of_mem_slotSchemas (List.getElem_mem hslot)
      have heq : (slotSchemas schemas count)[i] = .object f :=
        List.mem_singleton.mp (by rw [← hschemas.item f hf]; exact hmem)
      exact heq ▸ hconforms
    · intro given i schema a hgiven hschema ha
      obtain ⟨hi, -⟩ := List.getElem?_eq_some_iff.mp hschema
      obtain ⟨hi', -⟩ := List.getElem?_eq_some_iff.mp ha
      have hne : given ≠ [] := List.length_pos_iff.mp (Nat.zero_lt_of_lt hi)
      have hrel := getElem?_forall₂ hitems i
      rw [hschemas.tuple given hgiven hne, slotSchemas_getElem? hi (by omega), hschema, ha] at hrel
      cases hrel with
      | some hconforms => exact hconforms
  dsimp only
  split
  · next hempty =>
      refine anySchema_ensures.bind fun schema hschema => ?_
      have hnil : schemas = [] := List.isEmpty_iff.mp hempty.1
      refine hfill [schema] ⟨?_, ?_, ?_⟩ fun _ => List.cons_ne_nil _ _
      · intro other hother
        rw [List.mem_singleton.mp hother]
        exact hschema
      · intro f hf
        rw [hschemas.item f hf] at hnil
        cases hnil
      · intro given hgiven hne
        exact absurd ((hschemas.tuple given hgiven hne).symm.trans hnil) hne
  · next hfull =>
      refine hfill schemas hschemas fun hpos hnil => hfull ⟨?_, hpos⟩
      rw [hnil]
      rfl

/-! ## Objects -/

/-- Members as the keywords of an object ask for them. -/
structure AdmitsMembers (fields members : Fields) : Prop where
  size : AdmitsSize .properties fields members.length
  names : AdmitsNames fields members
  property : ∀ table name schema a, fields.get? "properties" = some (.object table) →
    (name, schema) ∈ table → (name, a) ∈ members → Conforms schema a
  additional : ∀ f name a, fields.get? "additionalProperties" = some (.object f) →
    IsAdditional fields name → (name, a) ∈ members → Conforms (.object f) a

/-- The schemas of a plain node's properties. -/
def propertyTable (fields : Fields) : PropertyTable where
  declared := ((⟨fields⟩ : Node).object? "properties").getD []
  patterns := []
  additional := ((⟨fields⟩ : Node).value? "additionalProperties").filter Json.isObject

theorem ofNode_eq (h : PlainFields fields) :
    PropertyTable.ofNode ⟨fields⟩ = .ok (propertyTable fields) := by
  unfold PropertyTable.ofNode
  rw [(h.lacks (by decide)).object?]
  rfl

theorem plain_of_lookup (hinside : ∀ schema, IsInside fields schema → Plain schema)
    {name : String} {schema : Json}
    (hlookup : (propertyTable fields).lookup name = some schema) : Plain schema := by
  unfold PropertyTable.lookup propertyTable at hlookup
  dsimp only at hlookup
  split at hlookup
  · next declared hdeclared =>
      obtain rfl := Option.some.inj hlookup
      have hmem := Fields.mem_of_get? hdeclared
      obtain ⟨table, hget, -⟩ :=
        PropertyNames.mem_declared (Fields.mem_names.mpr ⟨declared, hmem⟩)
      rw [PropertyNames.object?_properties hget] at hmem
      exact hinside declared (.property hget hmem)
  · obtain ⟨hvalue, hobject⟩ := Option.filter_eq_some_iff.mp hlookup
    cases schema with
    | object f => exact hinside _ (.additional hvalue)
    | _ => cases hobject

theorem lookup_declared (h : PlainFields fields) {table : Fields} {name : String} {schema : Json}
    (hget : fields.get? "properties" = some (.object table)) (hmem : (name, schema) ∈ table) :
    (propertyTable fields).lookup name = some schema := by
  obtain ⟨table', heq, hnd⟩ := h.propertiesShape _ hget
  obtain rfl := Json.object.inj heq
  have hdeclared : (propertyTable fields).declared.get? name = some schema := by
    unfold propertyTable
    rw [PropertyNames.object?_properties hget]
    exact (Fields.get?_eq_some_iff hnd).mpr hmem
  unfold PropertyTable.lookup
  rw [hdeclared]

theorem lookup_additional {f : Fields} {name : String}
    (hget : fields.get? "additionalProperties" = some (.object f))
    (hname : IsAdditional fields name) :
    (propertyTable fields).lookup name = some (.object f) := by
  have hdeclared : (propertyTable fields).declared.get? name = none := by
    refine Fields.get?_eq_none_iff.mpr fun hmem => ?_
    obtain ⟨table, htable, hin⟩ := PropertyNames.mem_declared hmem
    exact hname table htable hin
  unfold PropertyTable.lookup
  rw [hdeclared]
  unfold propertyTable Node.value?
  dsimp only
  rw [hget]
  rfl

/-- A property is made for its own name, as the schema of that name asks. -/
theorem property_ensures {descend : Descent σ} {scope : Json} {table : PropertyTable}
    {name : String}
    (hdescend : ∀ schema, Plain schema →
      Ensures (descend schema scope) (Conforms schema) IsMalformed)
    (hplain : ∀ schema, table.lookup name = some schema → Plain schema) :
    Ensures (property descend table scope name)
      (fun p => p.1 = name ∧ ∀ schema, table.lookup name = some schema → Conforms schema p.2)
      IsMalformed := by
  unfold property
  cases hlookup : table.lookup name with
  | none =>
      refine anySchema_ensures.bind fun schema hschema => ?_
      exact (hdescend schema hschema).bind fun v _ => ensures_pure ⟨rfl, fun _ h => nomatch h⟩
  | some schema =>
      refine (hdescend schema (hplain schema hlookup)).bind fun v hv => ensures_pure ⟨rfl, ?_⟩
      rintro _ ⟨⟩
      exact hv

theorem forall₂_named {P : String → Json → Prop} {names : List String} {pairs : Fields}
    (h : List.Forall₂ (fun name p => p.1 = name ∧ P name p.2) names pairs) :
    Fields.names pairs = names ∧ ∀ name a, (name, a) ∈ pairs → P name a := by
  induction h with
  | nil => exact ⟨rfl, fun _ _ hmem => nomatch hmem⟩
  | @cons name p names pairs hp _ ih =>
      obtain ⟨rfl, hp⟩ := hp
      refine ⟨congrArg (p.1 :: ·) ih.1, fun name a hmem => ?_⟩
      rcases List.mem_cons.mp hmem with rfl | hmem
      · exact hp
      · exact ih.2 name a hmem

theorem object_ensures {descend : Descent σ} {scope : Json} (h : PlainFields fields)
    (hinside : ∀ schema, IsInside fields schema → Plain schema)
    (hdescend : ∀ schema, Plain schema →
      Ensures (descend schema scope) (Conforms schema) IsMalformed) :
    Ensures (object descend ⟨fields⟩ scope)
      (fun v => ∃ members, v = .object members ∧ AdmitsMembers fields members) IsMalformed := by
  refine (PropertyNames.select_admits h).bind fun names hnames => ?_
  rw [ofNode_eq h]
  refine (ensures_sequence_map fun name _ => property_ensures hdescend fun schema =>
    plain_of_lookup hinside).bind fun pairs hpairs => ensures_pure ⟨_, rfl, ?_⟩
  obtain ⟨hkeys, hvalues⟩ := forall₂_named (P := fun name a => ∀ schema,
    (propertyTable fields).lookup name = some schema → Conforms schema a) hpairs
  have hperm : (Fields.ofList pairs).Perm pairs := Fields.ofList_perm (hkeys ▸ hnames.nodup)
  have hmem {name : String} : name ∈ Fields.names (Fields.ofList pairs) ↔ name ∈ names :=
    (hperm.map Prod.fst).mem_iff.trans (by rw [← hkeys]; rfl)
  have hlength : (Fields.ofList pairs).length = names.length := by
    rw [hperm.length_eq, ← hkeys]
    exact (List.length_map _).symm
  refine ⟨hlength ▸ hnames.size, ⟨fun list name hget hin => ?_, fun hclosed name hname hin => ?_⟩,
    fun table name schema a hget hin ha => ?_, fun f name a hget hname ha => ?_⟩
  · exact hmem.mpr (hnames.required list name hget hin)
  · exact hnames.closed hclosed name (hmem.mp hin) hname
  · exact hvalues name a (hperm.mem_iff.mp ha) schema (lookup_declared h hget hin)
  · exact hvalues name a (hperm.mem_iff.mp ha) _ (lookup_additional hget hname)

/-! ## The descent -/

/-- Bounds stand only beside the type of integers, so no other kind is drawn
where there is one. -/
theorem bound_eq_none (h : PlainFields fields) {value : Json} {k : Kind}
    (hget : fields.get? "type" = some value) (hnames : NamesKind value k) (hk : k ≠ .integer)
    (side : Side) : fields.get? side.plainKeyword = none := by
  cases hbound : fields.get? side.plainKeyword with
  | none => rfl
  | some bound =>
      obtain ⟨htype, -⟩ := h.bound side bound hbound
      obtain rfl := Option.some.inj (hget.symm.trans htype)
      rcases hnames with hname | ⟨names, hlist, -⟩
      · exact absurd (Json.string.inj hname) (by cases k <;> first | decide | exact absurd rfl hk)
      · cases hlist

/-- A value of a kind that a plain node names is an instance of the node. -/
theorem ofKind_conforms (s : Sampler) {descend : Descent σ} {scope : Json}
    (h : PlainFields fields) (hinside : ∀ schema, IsInside fields schema → Plain schema)
    (hdescend : ∀ schema, Plain schema →
      Ensures (descend schema scope) (Conforms schema) IsMalformed)
    {value : Json} {k : Kind} (hget : fields.get? "type" = some value)
    (hnames : NamesKind value k) :
    Ensures (s.ofKind descend ⟨fields⟩ scope k) (Conforms (.object fields)) IsMalformed := by
  have hvalue {v : Json} (hv : k.Holds v) : AdmitsValue fields v :=
    admitsValue_of_holds h hget hnames hv
  cases k with
  | null => exact ensures_pure (.null (hvalue rfl))
  | boolean => exact boolean_ensures.bind fun b _ => ensures_pure (.bool (hvalue ⟨b, rfl⟩))
  | integer =>
      refine (integer_ensures s h).imp_value ?_
      rintro _ ⟨n, rfl, hn⟩
      exact .number (hvalue ⟨n, rfl⟩) hn
  | number =>
      have hnone := bound_eq_none h hget hnames (by decide)
      refine (number_ensures s h hnone).imp_value ?_
      rintro _ ⟨n, rfl⟩
      refine .number (hvalue ⟨_, rfl⟩) ⟨fun b hb => ?_, fun b hb => ?_⟩
      · exact absurd ((hnone .lower).symm.trans hb) (by simp)
      · exact absurd ((hnone .upper).symm.trans hb) (by simp)
  | string =>
      refine (string_ensures h).imp_value ?_
      rintro _ ⟨text, rfl, hsize⟩
      exact .string (hvalue ⟨_, rfl⟩) hsize
  | array =>
      refine (array_ensures h hinside hdescend).imp_value ?_
      rintro _ ⟨items, rfl, hitems⟩
      exact .array (hvalue ⟨_, rfl⟩) hitems.size hitems.item hitems.tuple
  | object =>
      refine (object_ensures h hinside hdescend).imp_value ?_
      rintro _ ⟨members, rfl, hmembers⟩
      exact .object (hvalue ⟨_, rfl⟩) hmembers.size hmembers.names hmembers.property
        hmembers.additional

/-- A schema of one keyword that is about all values restricts them in no other
way. -/
theorem conforms_of_admitsValue {key : String} (hkey : key = "const" ∨ key = "enum")
    {value v : Json} (h : AdmitsValue [(key, value)] v) : Conforms (.object [(key, value)]) v := by
  have hother {other : String} {value' : Json} {P : Prop} (hne : other ≠ "const" ∧ other ≠ "enum")
      (hget : Fields.get? [(key, value)] other = some value') : P := by
    unfold Fields.get? at hget
    rw [if_neg (by rcases hkey with rfl | rfl <;> [exact hne.1.symm; exact hne.2.symm])] at hget
    cases hget
  have hsize (extent : Extent) (size : Nat) : AdmitsSize extent [(key, value)] size :=
    ⟨fun _ => hother (by cases extent <;> decide), fun _ => hother (by cases extent <;> decide)⟩
  cases v with
  | null => exact .null h
  | bool b => exact .bool h
  | number n => exact .number h ⟨fun _ => hother (by decide), fun _ => hother (by decide)⟩
  | string s => exact .string h (hsize .length _)
  | array items =>
      exact .array h (hsize .items _) (fun _ _ hget => hother (by decide) hget)
        fun _ _ _ _ hget => hother (by decide) hget
  | object members =>
      refine .object h (hsize .properties _) ⟨fun _ _ hget => ?_, fun hget => ?_⟩
        (fun _ _ _ _ hget => ?_) fun _ _ _ hget => ?_
      · exact hother (by decide) hget
      · exact hother (by decide) hget
      · exact hother (by decide) hget
      · exact hother (by decide) hget

theorem resolve_eq_none {node : Node} (hall : node.array? "allOf" = none)
    (hany : node.array? "anyOf" = none) (hone : node.array? "oneOf" = none) :
    (Overlay.resolve node : Draw σ SchemaError (Option Node)) = pure none := by
  unfold Overlay.resolve Overlay.branches
  rw [hall, hany, hone]
  rfl

/-- One step of the descent into a plain schema. -/
theorem step_conforms (s : Sampler) {descend : Descent σ}
    (hdescend : ∀ schema parent, Plain schema →
      Ensures (descend schema parent) (Conforms schema) IsMalformed)
    {schema : Json} (h : Plain schema) (parent : Option Json) :
    Ensures (s.step descend schema parent) (Conforms schema) IsMalformed := by
  have hnode {fields : Fields} (hall : (⟨fields⟩ : Node).array? "allOf" = none)
      (hany : (⟨fields⟩ : Node).array? "anyOf" = none)
      (hone : (⟨fields⟩ : Node).array? "oneOf" = none)
      (h : Ensures (s.ofNode descend ⟨fields⟩ parent) (Conforms (.object fields)) IsMalformed) :
      Ensures (s.step descend (.object fields) parent) (Conforms (.object fields)) IsMalformed := by
    refine Ensures.bind (Q := (· = ⟨fields⟩)) (ensures_pure rfl) ?_
    rintro _ rfl
    rw [resolve_eq_none hall hany hone]
    refine Ensures.bind (Q := (· = none)) (ensures_pure rfl) ?_
    rintro _ rfl
    exact h
  cases h with
  | constant c _ =>
      refine hnode rfl rfl rfl ?_
      show Ensures (pure c) _ _
      refine ensures_pure (conforms_of_admitsValue (.inl rfl) ⟨?_, ?_, ?_⟩)
      · rintro _ ⟨⟩
      · rintro _ ⟨⟩
        rfl
      · rintro _ ⟨⟩
  | choice members hne =>
      refine hnode rfl rfl rfl ?_
      show Ensures (Draw.element members >>= _) _ _
      refine (element_ensures members).bind fun member? hmember => ?_
      rcases hmember with ⟨hnil, -⟩ | ⟨member, hmem, rfl⟩
      · exact absurd hnil hne
      · refine ensures_pure (conforms_of_admitsValue (.inr rfl) ⟨?_, ?_, ?_⟩)
        · rintro _ ⟨⟩
        · rintro _ ⟨⟩
        · rintro _ ⟨⟩
          exact hmem
  | typed h hinside =>
      refine hnode (h.lacks (by decide)).array? (h.lacks (by decide)).array?
        (h.lacks (by decide)).array? ?_
      unfold ofNode
      rw [(h.lacks (by decide)).has, (h.lacks (by decide)).has, (h.lacks (by decide)).value?]
      refine (kind_ensures h).bind fun k ⟨value, hget, hnames⟩ => ?_
      exact ofKind_conforms s h hinside (fun schema => hdescend schema _) hget hnames

/-- Samples of plain schemas conform, at whatever depth. -/
theorem value_conforms (s : Sampler) :
    ∀ (depth : Nat) (schema : Json) (parent : Option Json), Plain schema →
      Ensures (s.value depth schema parent : Draw σ SchemaError Json) (Conforms schema) IsMalformed
  | 0, _, _, _ => ensures_endless
  | depth + 1, _, parent, h => step_conforms s (value_conforms s depth) h parent

end Sampler

end Specimen
