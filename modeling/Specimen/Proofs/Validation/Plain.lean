import Specimen.Proofs.Schema.PlainReading
import Specimen.Validation.Validator

/-!
# Instances of plain schemas are accepted

A value that conforms to a plain schema is accepted by the validator of the
schema, in every draft (`accepts_of_conforms`). A keyword of a plain schema
looks at the value alone (`accepts_plain`) or sends its parts on to the schemas
inside (`itemOutcome_valid`, `memberOutcome_valid`), so one step of the validator
accepts the value if the descent accepts the parts (`stepOutcome_plain`).

The latest draft has no lists of schemas under `items`. There the schema is to be
well-formed, which is what the validator asks of it first.
-/

namespace Specimen.Validation

variable {fields : Fields} {v value : Json} {keyword : String}

/-! ## Equality -/

mutual

theorem equal_self : ∀ v : Json, equal v v = true
  | .null => rfl
  | .bool b => beq_self_eq_true b
  | .number n => beq_self_eq_true n.toRat
  | .string s => beq_self_eq_true s
  | .array items => equalItems_self items
  | .object fields => equalFields_self fields

theorem equalItems_self : ∀ items : List Json, equalItems items items = true
  | [] => rfl
  | item :: rest => by
      unfold equalItems
      rw [equal_self item, equalItems_self rest]
      rfl

theorem equalFields_self : ∀ fields : List (String × Json), equalFields fields fields = true
  | [] => rfl
  | (name, value) :: rest => by
      unfold equalFields
      rw [beq_self_eq_true name, equal_self value, equalFields_self rest]
      rfl

end

/-- A constant is the value that it asks for; a number has to be finite for it. -/
theorem isConstant_self {c : Json} (h : ∀ n, c = .number n → n.toDouble.isFinite = true) :
    isConstant c c = true := by
  cases c with
  | number n =>
      have hdifference := Double.toRat_abs_add_neg (h n rfl)
      unfold isConstant
      dsimp only
      rw [hdifference, decide_eq_true_eq]
      unfold tolerance
      norm_num
  | _ => exact equal_self _

/-! ## Outcomes -/

namespace Outcome

theorem both_valid {a b : Outcome} :
    (a.both b).valid = true ↔ a.valid = true ∧ b.valid = true := by
  unfold both
  exact Bool.and_eq_true_iff

theorem all_valid {outcomes : List Outcome} :
    (all outcomes).valid = true ↔ ∀ o ∈ outcomes, o.valid = true := by
  have hfold : ∀ (outcomes : List Outcome) (done : Outcome),
      (outcomes.foldl both done).valid = true
        ↔ done.valid = true ∧ ∀ o ∈ outcomes, o.valid = true := by
    intro outcomes
    induction outcomes with
    | nil => simp
    | cons o rest ih =>
        intro done
        rw [List.foldl_cons, ih, both_valid, List.forall_mem_cons, and_assoc]
  unfold all
  rw [hfold]
  exact and_iff_right rfl

theorem settled_valid {o : Outcome} (h : o.valid = true) : o.settled.valid = true := by
  unfold settled
  rw [if_pos h]
  exact h

end Outcome

/-! ## Keywords without schemas below -/

theorem hasKind_of_holds (d : Draft) {kind : Kind} (h : kind.Holds v) :
    hasKind d kind.name v = true := by
  cases kind with
  | null => rw [show v = .null from h]; rfl
  | boolean => obtain ⟨b, rfl⟩ := h; rfl
  | integer =>
      obtain ⟨n, rfl⟩ := h
      unfold hasKind
      by_cases hd : d = .draft4
      · simp [hd, Kind.name, Number.isWrittenInteger]
      · simp [hd, Kind.name, Number.isInteger, Number.toRat]
  | number => obtain ⟨n, rfl⟩ := h; rfl
  | string => obtain ⟨s, rfl⟩ := h; rfl
  | array => obtain ⟨items, rfl⟩ := h; rfl
  | object => obtain ⟨members, rfl⟩ := h; rfl

theorem any_hasKind (d : Draft) {kind : Kind} (hnames : NamesKind value kind) (h : kind.Holds v) :
    (kindNames value).any (hasKind d · v) = true := by
  refine List.any_eq_true.mpr ⟨kind.name, ?_, hasKind_of_holds d h⟩
  rcases hnames with rfl | ⟨names, rfl, hmem⟩
  · exact List.mem_singleton.mpr rfl
  · exact List.mem_filterMap.mpr ⟨_, hmem, rfl⟩

theorem hasNames_of_admits {members : Fields} (h : AdmitsNames fields members)
    (hget : fields.get? "required" = some value) : hasNames value members = true := by
  unfold hasNames
  split
  · next names =>
      refine List.all_eq_true.mpr fun name hmem => ?_
      obtain ⟨item, hitem, hname⟩ := List.mem_filterMap.mp hmem
      cases item with
      | string s =>
          cases hname
          obtain ⟨a, ha⟩ := Fields.exists_get?_of_mem_names (h.required names name hget hitem)
          unfold Fields.contains
          rw [ha]
          rfl
      | _ => cases hname
  · rfl

theorem compareSize_least {extent : Extent} {size : Nat} (h : AdmitsSize extent fields size)
    (hget : fields.get? extent.leastKeyword = some value) :
    compareSize isAtLeast value size = true := by
  unfold compareSize
  split
  · next b => exact decide_eq_true (h.least b hget)
  · rfl

theorem compareSize_greatest {extent : Extent} {size : Nat} (h : AdmitsSize extent fields size)
    (hget : fields.get? extent.greatestKeyword = some value) :
    compareSize isAtMost value size = true := by
  unfold compareSize
  split
  · next b => exact decide_eq_true (h.greatest b hget)
  · rfl

/-- A plain keyword admits what conforms, in every draft. -/
theorem accepts_plain (h : PlainFields fields) (hv : Conforms (.object fields) v)
    (hget : fields.get? keyword = some value) (d : Draft) :
    accepts d fields keyword value v = true := by
  unfold accepts
  split
  · obtain ⟨kind, hnames, hkind⟩ := hv.admitsValue.type value hget
    exact any_hasKind d hnames hkind
  · exact absurd hget (h.get?_ne_some (by decide))
  · exact absurd hget (h.get?_ne_some (by decide))
  · rw [h.absent "exclusiveMinimum" (by decide)]
    simp only [Bool.and_false, Bool.false_eq_true, if_false]
    unfold compareNumber
    split
    · next b n =>
        cases hv with
        | number _ hbounds => exact decide_eq_true (hbounds.minimum b hget)
    · rfl
  · rw [h.absent "exclusiveMaximum" (by decide)]
    simp only [Bool.and_false, Bool.false_eq_true, if_false]
    unfold compareNumber
    split
    · next b n =>
        cases hv with
        | number _ hbounds => exact decide_eq_true (hbounds.maximum b hget)
    · rfl
  · exact absurd hget (h.get?_ne_some (by decide))
  · exact absurd hget (h.get?_ne_some (by decide))
  · exact absurd hget (h.get?_ne_some (by decide))
  · cases hv with | string _ hsize => exact compareSize_least hsize hget
  · cases hv with | string _ hsize => exact compareSize_greatest hsize hget
  · exact absurd hget (h.get?_ne_some (by decide))
  · exact absurd hget (h.get?_ne_some (by decide))
  · exact absurd hget (h.get?_ne_some (by decide))
  · exact absurd hget (h.get?_ne_some (by decide))
  · cases hv with | array _ hsize _ _ => exact compareSize_least hsize hget
  · cases hv with | array _ hsize _ _ => exact compareSize_greatest hsize hget
  · exact absurd hget (h.get?_ne_some (by decide))
  · cases hv with | object _ hsize _ _ _ => exact compareSize_least hsize hget
  · cases hv with | object _ hsize _ _ _ => exact compareSize_greatest hsize hget
  · cases hv with | object _ _ hnames _ _ => exact hasNames_of_admits hnames hget
  · exact absurd hget (h.get?_ne_some (by decide))
  · rfl

/-! ## Schemas below -/

namespace Located

theorem schema_child (l : Located) (schema : Json) : (l.child schema).schema = schema := by
  unfold child
  split
  · dsimp only
    split <;> rfl
  · rfl

/-- A schema inside a plain one is of the draft that is in force around it. -/
theorem draft_child (h : PlainFields fields) (l : Located) {schema : Json}
    (hinside : IsInside fields schema) : (l.child schema).draft = l.draft := by
  cases schema with
  | object f =>
      have hdraft : draftOf l.draft f = l.draft := by
        unfold draftOf
        rw [h.dialect f hinside]
      unfold child
      dsimp only
      rw [hdraft]
      split <;> rfl
  | _ => rfl

end Located

/-! ## Well-formed schemas -/

theorem fits_of_mem_keywords {d : Draft} :
    ∀ {fields : Fields}, Shape.keywordsFit d fields = true → (keyword, value) ∈ fields →
      Shape.fits d (Shape.ofKeyword d keyword) value = true
  | (other, first) :: rest, h, hmem => by
      unfold Shape.keywordsFit at h
      obtain ⟨hfirst, hrest⟩ := Bool.and_eq_true_iff.mp h
      rcases List.mem_cons.mp hmem with heq | hmem
      · obtain ⟨rfl, rfl⟩ := Prod.mk.inj heq
        exact hfirst
      · exact fits_of_mem_keywords hrest hmem

theorem fits_of_mem_values {d : Draft} {shape : Shape} {name : String} :
    ∀ {table : Fields}, Shape.valuesFit d shape table = true → (name, value) ∈ table →
      Shape.fits d shape value = true
  | (other, first) :: rest, h, hmem => by
      unfold Shape.valuesFit at h
      obtain ⟨hfirst, hrest⟩ := Bool.and_eq_true_iff.mp h
      rcases List.mem_cons.mp hmem with heq | hmem
      · obtain ⟨rfl, rfl⟩ := Prod.mk.inj heq
        exact hfirst
      · exact fits_of_mem_values hrest hmem

theorem fits_keyword {d : Draft} (h : Shape.fits d .schema (.object fields) = true)
    (hget : fields.get? keyword = some value) :
    Shape.fits d (Shape.ofKeyword d keyword) value = true := by
  unfold Shape.fits at h
  rw [if_pos (show Shape.schema.isSchema = true from rfl)] at h
  exact fits_of_mem_keywords (Bool.and_eq_true_iff.mp h).2 (Fields.mem_of_get? hget)

/-- The latest draft has one schema for all items. -/
theorem items_ne_array {schemas : List Json}
    (h : Shape.fits .draft2020 .schema (.object fields) = true) :
    fields.get? "items" ≠ some (.array schemas) := by
  intro hget
  have hfits : Shape.fits .draft2020 .schema (.array schemas) = true := fits_keyword h hget
  unfold Shape.fits at hfits
  cases hfits

/-- What stands in a schema that is well-formed in the latest draft is so too. -/
theorem fits_inside {schema : Json} (h : Shape.fits .draft2020 .schema (.object fields) = true)
    (hinside : IsInside fields schema) : Shape.fits .draft2020 .schema schema = true := by
  cases hinside with
  | item hget => exact fits_keyword h hget
  | slot hget _ => exact absurd hget (items_ne_array h)
  | @property table name _ hget hmem =>
      have hfits : Shape.fits .draft2020 .schemaTable (.object table) = true := fits_keyword h hget
      unfold Shape.fits at hfits
      rw [if_neg (by decide)] at hfits
      exact fits_of_mem_values hfits hmem
  | additional hget => exact fits_keyword h hget

/-! ## One step -/

/-- A plain schema in its place, which in the latest draft is well-formed. -/
structure PlainAt (l : Located) : Prop where
  plain : Plain l.schema
  fits : l.draft = .draft2020 → Shape.fits .draft2020 .schema l.schema = true

/-- A descent accepts what conforms to a plain schema, and the schema that is
true takes everything. -/
structure AcceptsPlain (down : Located → Json → Outcome) : Prop where
  top : ∀ l v, l.schema = .bool true → (down l v).valid = true
  plain : ∀ l v, PlainAt l → Conforms l.schema v → (down l v).valid = true

variable {down : Located → Json → Outcome} {l : Located} {schema : Json}

/-- The descent into a schema inside accepts what conforms to it. -/
theorem apply_valid (hdown : AcceptsPlain down) (h : PlainFields fields)
    (hplain : ∀ schema, IsInside fields schema → Plain schema)
    (hfits : l.draft = .draft2020 → Shape.fits .draft2020 .schema (.object fields) = true)
    (hinside : IsInside fields schema) (hv : Conforms schema v) :
    (l.apply down schema v).valid = true := by
  have hschema : (l.child schema).schema = schema := l.schema_child schema
  refine hdown.plain _ v ⟨hschema.symm ▸ hplain schema hinside, fun hdraft => ?_⟩
    (hschema.symm ▸ hv)
  rw [l.draft_child h hinside] at hdraft
  rw [hschema]
  exact fits_inside (hfits hdraft) hinside

theorem forMembers_valid {members : Fields}
    (h : ∀ name a, (name, a) ∈ members → (l.apply down schema a).valid = true) :
    (forMembers down l schema members).valid = true := by
  refine Outcome.all_valid.mpr fun o ho => ?_
  obtain ⟨⟨name, a⟩, hmem, rfl⟩ := List.mem_map.mp ho
  exact h name a hmem

theorem forItems_valid {items : List Json} (start : Nat)
    (h : ∀ a ∈ items, (l.apply down schema a).valid = true) :
    (forItems down l schema start items).valid = true := by
  refine Outcome.all_valid.mpr fun o ho => ?_
  obtain ⟨⟨a, i⟩, hmem, rfl⟩ := List.mem_map.mp ho
  exact h a (List.fst_mem_of_mem_zipIdx (List.mem_of_mem_drop hmem))

theorem forTuple_valid {schemas items : List Json}
    (h : ∀ (i : Nat) (schema a : Json), schemas[i]? = some schema → items[i]? = some a →
      (l.apply down schema a).valid = true) :
    (forTuple down l schemas items).valid = true := by
  refine Outcome.all_valid.mpr fun o ho => ?_
  obtain ⟨⟨schema, a, i⟩, hmem, rfl⟩ := List.mem_map.mp ho
  obtain ⟨j, hj⟩ := List.mem_iff_getElem?.mp hmem
  obtain ⟨hschema, ha⟩ := List.getElem?_zip_eq_some.mp hj
  rw [List.getElem?_zipIdx] at ha
  obtain ⟨b, hb, heq⟩ := Option.map_eq_some_iff.mp ha
  obtain rfl : b = a := (Prod.mk.inj heq).1
  exact h j schema b hschema hb

/-- A name that is not declared is additional. -/
theorem isAdditional_of_isDeclared {name : String} (h : isDeclared fields name = false) :
    IsAdditional fields name := by
  intro table hget hmem
  obtain ⟨schema, hschema⟩ := Fields.mem_names.mp hmem
  unfold isDeclared at h
  rw [hget] at h
  have hany := (Bool.or_eq_false_iff.mp h).1
  exact absurd (decide_eq_true rfl) (List.any_eq_false.mp hany (name, schema) hschema)

/-- The keyword for items of a plain schema accepts the items. -/
theorem itemOutcome_valid {items : List Json} (h : PlainFields fields)
    (hfits : l.draft = .draft2020 → Shape.fits .draft2020 .schema (.object fields) = true)
    (hdown : ∀ schema a, IsInside fields schema → Conforms schema a →
      (l.apply down schema a).valid = true)
    (hv : Conforms (.object fields) (.array items)) (hget : fields.get? keyword = some value) :
    (itemOutcome down l fields keyword value items).valid = true := by
  cases hv with
  | array _ _ hitem htuple =>
      unfold itemOutcome
      split
      · exact absurd hget (h.get?_ne_some (by decide))
      · rcases h.itemsShape value hget with ⟨f, rfl⟩ | ⟨schemas, rfl⟩
        · have hall : ∀ a ∈ items, (l.apply down (.object f) a).valid = true :=
            fun a ha => hdown _ a (.item hget) (hitem f a hget ha)
          split
          · exact forItems_valid _ hall
          · exact forItems_valid 0 hall
        · -- a list here is no schema of the latest draft, so the draft is an older one
          have hold : ¬l.draft.isFrom .draft2020 := by
            intro hdraft
            have hlatest : l.draft = .draft2020 := by
              cases hd : l.draft <;> rw [hd] at hdraft <;> first | rfl | cases hdraft
            exact items_ne_array (hfits hlatest) hget
          rw [if_neg hold]
          refine forTuple_valid fun i schema a hschema ha => ?_
          exact hdown schema a (.slot hget (List.mem_of_getElem? hschema))
            (htuple schemas i schema a hget hschema ha)
      · exact absurd hget (h.get?_ne_some (by decide))
      · exact absurd hget (h.get?_ne_some (by decide))
      · rfl

/-- The keywords for members of a plain schema accept the members. -/
theorem memberOutcome_valid {members : Fields} (h : PlainFields fields)
    (htop : ∀ a, (l.apply down (.bool true) a).valid = true)
    (hdown : ∀ schema a, IsInside fields schema → Conforms schema a →
      (l.apply down schema a).valid = true)
    (hv : Conforms (.object fields) (.object members)) (hget : fields.get? keyword = some value) :
    (memberOutcome down l fields keyword value members).valid = true := by
  cases hv with
  | object _ _ hnames hproperty hadditional =>
      unfold memberOutcome
      dsimp only
      split
      · obtain ⟨table, rfl, -⟩ := h.propertiesShape value hget
        refine Outcome.all_valid.mpr fun o ho => ?_
        obtain ⟨⟨name, schema⟩, hschema, rfl⟩ := List.mem_map.mp ho
        refine forMembers_valid fun other a ha => ?_
        obtain ⟨hmem, hname⟩ := List.mem_filter.mp ha
        obtain rfl : other = name := of_decide_eq_true hname
        exact hdown schema a (.property hget hschema)
          (hproperty table other schema a hget hschema hmem)
      · exact absurd hget (h.get?_ne_some (by decide))
      · refine forMembers_valid fun name a ha => ?_
        obtain ⟨hmem, hother⟩ := List.mem_filter.mp ha
        have hname : IsAdditional fields name :=
          isAdditional_of_isDeclared (Bool.not_eq_true' _ ▸ hother)
        -- what is false takes no member, but a closed object has none that is additional
        rcases h.additionalShape value hget with ⟨_ | _, rfl⟩ | ⟨f, rfl⟩
        · exact absurd (Fields.mem_names.mpr ⟨a, hmem⟩) (hnames.closed hget name hname)
        · exact htop a
        · exact hdown _ a (.additional hget) (hadditional f name a hget hname hmem)
      · exact absurd hget (h.get?_ne_some (by decide))
      · exact absurd hget (h.get?_ne_some (by decide))
      · exact absurd hget (h.get?_ne_some (by decide))
      · rfl

/-- The keywords that send a whole value on to other schemas. -/
def applicators : List String :=
  ["$ref", "$recursiveRef", "$dynamicRef", "allOf", "anyOf", "oneOf", "not", "if"]

/-- A keyword that does not send the value itself on has a say on the value and on
its parts. -/
theorem keywordOutcome_valid {lib : Library} (hhere : accepts l.draft fields keyword value v = true)
    (hkeyword : keyword ∉ applicators)
    (hitems : ∀ items, v = .array items →
      (itemOutcome down l fields keyword value items).valid = true)
    (hmembers : ∀ members, v = .object members →
      (memberOutcome down l fields keyword value members).valid = true) :
    (keywordOutcome lib down l fields keyword value v).valid = true := by
  unfold keywordOutcome
  refine Outcome.both_valid.mpr ⟨hhere, ?_⟩
  split
  · exact absurd (by decide) hkeyword
  · exact absurd (by decide) hkeyword
  · exact absurd (by decide) hkeyword
  · exact absurd (by decide) hkeyword
  · exact absurd (by decide) hkeyword
  · exact absurd (by decide) hkeyword
  · exact absurd (by decide) hkeyword
  · exact absurd (by decide) hkeyword
  · cases v with
    | array items => exact hitems items rfl
    | object members => exact hmembers members rfl
    | _ => rfl

/-- A schema accepts a value if each of its keywords does, as long as it has no
reference and no keyword for what others leave. -/
theorem stepOutcome_valid {lib : Library} (hl : l.schema = .object fields)
    (href : fields.get? "$ref" = none) (hitems : fields.get? "unevaluatedItems" = none)
    (hproperties : fields.get? "unevaluatedProperties" = none)
    (h : ∀ keyword value, (keyword, value) ∈ fields →
      (keywordOutcome lib down l fields keyword value v).valid = true) :
    (stepOutcome lib down l v).valid = true := by
  have hstring : l.string? "$ref" = none := by
    unfold Located.string?
    rw [hl]
    dsimp only
    rw [href]
    rfl
  have hrest (seen : Outcome) : (restOutcome down l fields seen v).valid = true := by
    unfold restOutcome
    rw [hitems, hproperties]
    split
    · split <;> rfl
    · rfl
  unfold stepOutcome
  rw [hl, hstring]
  dsimp only
  split
  · next hsome => cases hsome
  · refine Outcome.settled_valid (Outcome.both_valid.mpr ⟨?_, hrest _⟩)
    refine Outcome.all_valid.mpr fun o ho => ?_
    obtain ⟨⟨keyword, value⟩, hmem, rfl⟩ := List.mem_map.mp ho
    exact h keyword value hmem

/-- A constant and an enumeration stand alone and send nothing on. -/
theorem stepOutcome_alone {lib : Library} {key : String} (hl : l.schema = .object [(key, value)])
    (hkey : key = "const" ∨ key = "enum")
    (hhere : accepts l.draft [(key, value)] key value v = true) :
    (stepOutcome lib down l v).valid = true := by
  refine stepOutcome_valid hl ?_ ?_ ?_ fun keyword value' hmem => ?_
  · rcases hkey with rfl | rfl <;> rfl
  · rcases hkey with rfl | rfl <;> rfl
  · rcases hkey with rfl | rfl <;> rfl
  · obtain ⟨rfl, rfl⟩ := Prod.mk.inj (List.mem_singleton.mp hmem)
    refine keywordOutcome_valid hhere ?_ (fun _ _ => ?_) fun _ _ => ?_
    · rcases hkey with rfl | rfl <;> decide
    · rcases hkey with rfl | rfl <;> rfl
    · rcases hkey with rfl | rfl <;> rfl

/-- One step into a plain schema. -/
theorem stepOutcome_plain (lib : Library) (hdown : AcceptsPlain down) (hl : PlainAt l)
    (hv : Conforms l.schema v) : (stepOutcome lib down l v).valid = true := by
  obtain ⟨hplain, hfits⟩ := hl
  generalize hschema : l.schema = schema at hplain hv hfits
  cases hplain with
  | constant c hfinite =>
      obtain rfl := hv.admitsValue.constant c rfl
      refine stepOutcome_alone hschema (.inl rfl) ?_
      show (!l.draft.isFrom .draft6 || isConstant v v) = true
      rw [isConstant_self hfinite, Bool.or_true]
  | choice members =>
      refine stepOutcome_alone hschema (.inr rfl) (List.any_eq_true.mpr ⟨v, ?_, equal_self v⟩)
      exact hv.admitsValue.choice members rfl
  | @typed fields h hinside =>
      have hbelow (schema a : Json) (hin : IsInside fields schema) (ha : Conforms schema a) :
          (l.apply down schema a).valid = true := apply_valid hdown h hinside hfits hin ha
      refine stepOutcome_valid hschema (h.absent _ (by decide)) (h.absent _ (by decide))
        (h.absent _ (by decide)) fun keyword value hmem => ?_
      have hget : fields.get? keyword = some value := (Fields.get?_eq_some_iff h.nodup).mpr hmem
      refine keywordOutcome_valid (accepts_plain h hv hget l.draft) ?_ ?_ ?_
      · intro hin
        have hall : ∀ keyword ∈ applicators, keyword ∈ keywordsNotPlain := by decide
        exact h.get?_ne_some (hall _ hin) hget
      · rintro items rfl
        exact itemOutcome_valid h hfits hbelow hv hget
      · rintro members rfl
        exact memberOutcome_valid h (fun a => hdown.top _ a (l.schema_child _)) hbelow hv hget

/-! ## Whole schemas -/

/-- However deep the descent, it accepts what conforms. -/
theorem evaluate_acceptsPlain (lib : Library) : ∀ depth, AcceptsPlain (lib.evaluate depth)
  | 0 => ⟨fun _ _ _ => rfl, fun _ _ _ _ => rfl⟩
  | depth + 1 => by
      refine ⟨fun l v hl => ?_, fun l v hl hv => ?_⟩
      · show (stepOutcome lib (lib.evaluate depth) l v).valid = true
        unfold stepOutcome
        rw [hl]
        rfl
      · exact stepOutcome_plain lib (evaluate_acceptsPlain lib depth) hl hv

/-- The validator of a document that is read in a draft. -/
def validatorIn (d : Draft) (document : Json) : Validator :=
  ⟨.root d document, .ofRoot (.root d document)⟩

/-- The validator of a plain document accepts what conforms. -/
theorem accepts_of_conforms {document : Json} {d : Draft} (h : Plain document)
    (hfits : d = .draft2020 → Shape.fits .draft2020 .schema document = true)
    (hv : Conforms document v) : (validatorIn d document).accepts v = true :=
  (evaluate_acceptsPlain _ _).plain _ v ⟨h, hfits⟩ hv

/-- The validator that a plain document has accepts what conforms. -/
theorem accepts_of_ofDocument? {document : Json} {validator : Validator} (h : Plain document)
    (hvalidator : Validator.ofDocument? document = some validator) (hv : Conforms document v) :
    validator.accepts v = true := by
  unfold Validator.ofDocument? at hvalidator
  obtain ⟨d, hd, hsome⟩ := Option.bind_eq_some_iff.mp hvalidator
  dsimp only at hsome
  split at hsome
  · next hsound =>
      cases hsome
      refine accepts_of_conforms h ?_ hv
      rintro rfl
      exact (Bool.and_eq_true_iff.mp (Bool.and_eq_true_iff.mp hsound).1).2
  · cases hsome

end Specimen.Validation
