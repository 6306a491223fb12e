import Specimen.Proofs.Random.FormatValue
import Specimen.Proofs.Schema.Inside
import Specimen.Proofs.Schema.Selection
import Specimen.Sampler

/-!
# Samples of schemas that are alike

One step of the descent, taken for two nodes that read alike, does the same on both
sides until it comes to a schema inside. For nodes without references this needs no more
than that the descents into related schemas follow one another (`ofBare_follows`), and
the samplers need to agree on multiples only.

With references, `step_follows` says the same for one sampler and nodes that are alike.
What the descents have to do for this is `Carries`; it is the induction hypothesis of
every comparison of two samples that follows references.

Failures are compared by their category, since some of them show the whole node.
-/

namespace Specimen.Sampler

open Draw

variable {σ : Type}

/-- Failures that callers do not tell apart. -/
def SameCategory (e e' : SchemaError) : Prop := e.category = e'.category

theorem SameCategory.refl (e : SchemaError) : SameCategory e e := Eq.refl _

/-- Draws that end with the same value or with failures of one category. -/
abbrev SameSample {α : Type} (x : Nat → Draw σ SchemaError α) (y : Draw σ SchemaError α) : Prop :=
  Follows (· = ·) SameCategory x y

theorem sameSample_of_steady {α : Type} {x : Draw σ SchemaError α} (h : Steady x) :
    SameSample (fun _ => x) x :=
  h.follows (fun _ => rfl) SameCategory.refl

theorem SameSample.bind {α β : Type} {x : Nat → Draw σ SchemaError α} {y : Draw σ SchemaError α}
    {f : Nat → α → Draw σ SchemaError β} {g : α → Draw σ SchemaError β} (hx : SameSample x y)
    (hf : ∀ a, SameSample (fun n => f n a) (g a)) : SameSample (fun n => x n >>= f n) (y >>= g) :=
  Follows.bind hx fun a _ hab => hab ▸ hf a

/-- A draw has every value of one that it follows, and leaves the same source. -/
theorem SameSample.value_of {α : Type} {x y : Draw σ SchemaError α} (h : SameSample (fun _ => x) y)
    {src rest : σ} {v : α} (hy : ∃ limit, y.run limit src = (.ok v, rest)) :
    ∃ limit, x.run limit src = (.ok v, rest) := by
  obtain ⟨limit, hrun⟩ := hy
  obtain ⟨_, hagree, m, hm⟩ := h hrun (by simp)
  cases hagree with
  | value heq => exact ⟨m, heq ▸ hm m (Nat.le_refl m) m (Nat.le_refl m)⟩

theorem SameSample.failure_of {α : Type} {x y : Draw σ SchemaError α}
    (h : SameSample (fun _ => x) y) {src rest : σ} {category : SchemaError.Category}
    (hy : ∃ limit e, y.run limit src = (.error (.failed e), rest) ∧ e.category = category) :
    ∃ limit e, x.run limit src = (.error (.failed e), rest) ∧ e.category = category := by
  obtain ⟨limit, e, hrun, hcategory⟩ := hy
  obtain ⟨_, hagree, m, hm⟩ := h hrun (by simp)
  cases hagree with
  | failure heq => exact ⟨m, _, hm m (Nat.le_refl m) m (Nat.le_refl m), heq.trans hcategory⟩

/-! ## Descents into related schemas -/

/-- What a family of descents has to do for its steps to follow those of another
descent from inside `parent`: follow it into equal schemas anywhere, and into
related ones from wherever pointers start below a node. Alike nodes have to agree
on that place. -/
structure Carries (s : Sampler) (R : Json → Json → Prop) (parent : Option Json)
    (x : Nat → Descent σ) (y : Descent σ) : Prop where
  refl : ∀ a, R a a
  scope : ∀ {node node' : Node}, FieldsAlike R node.fields node'.fields →
    s.scopeOf node parent = s.scopeOf node' parent
  same : ∀ a around, SameSample (fun n => x n a around) (y a around)
  related : ∀ (node : Node) a b, R a b →
    SameSample (fun n => x n a (s.scopeOf node parent)) (y b (s.scopeOf node parent))

variable {R : Json → Json → Prop} {node node' : Node} {x : Nat → Descent σ} {y : Descent σ}
variable {scope scope' : Json} {s : Sampler} {parent : Option Json}

/-! ## References -/

/-- Where the pointers of a node's reference start. -/
def pointerStart (s : Sampler) (node : Node) (parent : Option Json) : Option Json :=
  match s.settings.refScope with
  | .enclosing => parent
  | .document => some (parent.getD node.toJson)

/-- What a reference that led somewhere is sampled as. -/
def enter (descend : Descent σ) (reference : String) (parent : Option Json) :
    Resolved → Draw σ SchemaError Json
  | .inline target scope => descend target scope
  | .document d => descend d parent
  | .fragment d pointer =>
    match d.walk? pointer with
    | some target => descend target d
    | none => Draw.fail (.unresolvable reference .noTarget)

theorem follow_eq (s : Sampler) (descend : Descent σ) (reference : String) (node : Node)
    (parent : Option Json) :
    s.follow descend reference node parent
      = Draw.ofExcept (Reference.resolve reference (s.pointerStart node parent) s.baseDir s.loader)
          >>= enter descend reference parent := rfl

theorem Carries.pointerStart_eq (hx : Carries s R parent x y)
    (h : FieldsAlike R node.fields node'.fields) :
    s.pointerStart node parent = s.pointerStart node' parent := by
  have heq := hx.scope h
  unfold scopeOf at heq
  unfold pointerStart
  cases hmode : s.settings.refScope with
  | enclosing => rfl
  | document =>
      rw [hmode] at heq
      exact congrArg some heq

/-- What a reference leads to is the same schema on both sides. -/
theorem follow_follows (hx : Carries s R parent x y) (h : FieldsAlike R node.fields node'.fields)
    (reference : String) :
    SameSample (fun n => s.follow (x n) reference node parent)
      (s.follow y reference node' parent) := by
  simp only [follow_eq, hx.pointerStart_eq h]
  refine SameSample.bind (sameSample_of_steady (steady_ofExcept _)) fun resolved => ?_
  cases resolved with
  | inline target scope => exact hx.same target scope
  | document d => exact hx.same d parent
  | fragment d pointer =>
      unfold enter
      dsimp only
      split
      · exact hx.same _ d
      · exact follows_fail rfl

variable [Source σ]

/-! ## Values without schemas inside -/

theorem steady_integer (s : Sampler) (node : Node) :
    Steady (s.integer node : Draw σ SchemaError Json) := by
  refine (steady_ofExcept _).bind fun range => ?_
  dsimp only
  split
  · refine (steady_ofExcept _).bind fun factors => ?_
    exact (steady_intBetween _ _).bind fun n => steady_ofExcept _
  · exact (steady_intBetween _ _).bind fun n => steady_ofExcept _

theorem steady_number (s : Sampler) (node : Node) :
    Steady (s.number node : Draw σ SchemaError Json) := by
  refine (steady_ofExcept _).bind fun range => ?_
  dsimp only
  split
  · refine (steady_ofExcept _).bind fun factors => ?_
    exact (steady_intBetween _ _).bind fun n => steady_ofExcept _
  · exact (steady_doubleBetween _ _).bind fun x => steady_ofExcept _

theorem steady_string (node : Node) : Steady (string node : Draw σ SchemaError Json) := by
  refine (steady_ofExcept _).bind fun format? => ?_
  cases format? with
  | some format => exact (steady_formatValue format).bind fun text => steady_pure _
  | none =>
      dsimp only
      split
      · refine (steady_ofExcept _).bind fun p => ?_
        exact (Pattern.steady_draw p).bind fun text => steady_pure _
      · exact (steady_text _).bind fun text => steady_pure _

/-! ## Values of nodes that read alike -/

variable {s' : Sampler}

theorem integer_eq (hmode : s.settings.multiples = s'.settings.multiples)
    (h : Node.ReadsSame node node') :
    (s.integer node : Draw σ SchemaError Json) = s'.integer node' := by
  unfold integer drawsFactors
  rw [h.integerRange, h.step, h.has (by decide), hmode]

theorem number_eq (hmode : s.settings.multiples = s'.settings.multiples)
    (h : Node.ReadsSame node node') :
    (s.number node : Draw σ SchemaError Json) = s'.number node' := by
  unfold number drawsFactors
  rw [h.numberRange, h.step, h.has (by decide), hmode]

theorem string_eq (h : Node.ReadsSame node node') :
    (string node : Draw σ SchemaError Json) = string node' := by
  unfold string
  rw [h.format?, h.string? (by decide), h.lengths]

/-- The kind is drawn alike; only a failure to state one shows the node. -/
theorem kind_follows (h : Node.ReadsSame node node') :
    SameSample (fun _ => (kind node : Draw σ SchemaError Kind)) (kind node') := by
  unfold kind
  rw [h "type" (by decide)]
  split
  · exact follows_fail rfl
  · exact sameSample_of_steady (steady_ofExcept _)
  · refine (sameSample_of_steady (steady_element _)).bind fun name? => ?_
    split
    · exact follows_fail rfl
    · exact sameSample_of_steady (steady_ofExcept _)
    · exact follows_fail rfl
  · exact follows_fail rfl

/-! ## Containers -/

/-- The schemas that stand for what a node does not say are related to themselves. -/
theorem anySchema_follows (hkind : ∀ kind : Kind, R kind.toSchema kind.toSchema) :
    Follows R SameCategory (fun _ => (anySchema : Draw σ SchemaError Json)) anySchema :=
  Follows.bind (sameSample_of_steady (steady_element _)) fun _ _ heq =>
    heq ▸ follows_pure (hkind _)

theorem itemSchemas_follows (hkind : ∀ kind : Kind, R kind.toSchema kind.toSchema)
    (h : Node.ReadsAlike bareKeywords R node node') :
    Follows (List.Forall₂ R) SameCategory
      (fun _ => (itemSchemas node : Draw σ SchemaError (List Json))) (itemSchemas node') := by
  have hrel := h "items" (by decide)
  unfold itemSchemas
  generalize node.value? "items" = a?, node'.value? "items" = b? at hrel ⊢
  cases hrel with
  | none => exact (anySchema_follows hkind).bind fun _ _ hab => follows_pure (.cons hab .nil)
  | @some a b hab =>
      cases hab with
      | same h =>
          cases a with
          | object f => exact follows_pure (List.forall₂_same.mpr h)
          | array as => exact follows_pure (List.forall₂_same.mpr h)
          | _ => exact follows_fail rfl
      | table hmem _ => exact absurd hmem (by decide)
      | schema _ h => exact follows_pure (.cons h .nil)
      | schemas _ h => exact follows_pure h

theorem slotSchemas_forall₂ {as bs : List Json} (h : List.Forall₂ R as bs) (count : Nat) :
    List.Forall₂ R (slotSchemas as count) (slotSchemas bs count) := by
  unfold slotSchemas
  rw [h.length_eq]
  induction List.range count with
  | nil => exact .nil
  | cons i rest ih =>
      have hrel := getElem?_forall₂ h (i % bs.length)
      rw [List.filterMap_cons, List.filterMap_cons]
      generalize as[i % bs.length]? = a?, bs[i % bs.length]? = b? at hrel
      cases hrel with
      | none => exact ih
      | some hab => exact .cons hab ih

theorem array_follows (hkind : ∀ kind : Kind, R kind.toSchema kind.toSchema)
    (hx : ∀ a b, R a b → SameSample (fun n => x n a scope) (y b scope'))
    (h : Node.ReadsAlike bareKeywords R node node') :
    SameSample (fun n => array (x n) node scope) (array y node' scope') := by
  have hrest (schemas schemas' : List Json) (hschemas : List.Forall₂ R schemas schemas')
      (count : Nat) :
      SameSample
        (fun n => do
          let items ← Draw.sequence ((slotSchemas schemas count).map fun a => x n a scope)
          return Json.array (if node.flag "uniqueItems" then distinctItems [] items else items))
        (do
          let items ← Draw.sequence ((slotSchemas schemas' count).map fun a => y a scope')
          return Json.array
            (if node'.flag "uniqueItems" then distinctItems [] items else items)) := by
    refine (follows_sequence_map hx (slotSchemas_forall₂ hschemas count)).bind
      fun items items' hitems => ?_
    rw [List.forall₂_eq_eq_eq] at hitems
    subst hitems
    rw [h.same.flag (by decide)]
    exact follows_pure rfl
  refine (itemSchemas_follows hkind h).bind fun schemas schemas' hschemas => ?_
  rw [h.same.itemCounts, hschemas.length_eq]
  refine (sameSample_of_steady (steady_countBetween _ _)).bind fun count => ?_
  have hempty : schemas.isEmpty = schemas'.isEmpty := by
    cases hschemas <;> rfl
  dsimp only
  rw [hempty]
  split
  · exact (anySchema_follows hkind).bind fun schema schema' hab =>
      hrest _ _ (.cons hab .nil) count
  · exact hrest _ _ hschemas count

theorem property_follows (hkind : ∀ kind : Kind, R kind.toSchema kind.toSchema)
    (hx : ∀ a b, R a b → SameSample (fun n => x n a scope) (y b scope'))
    {table table' : PropertyTable} (htable : PropertyTable.Alike R table table') (name : String) :
    SameSample (fun n => property (x n) table scope name) (property y table' scope' name) := by
  have hvalue {a b : Json} (hab : R a b) :
      SameSample (fun n => do return (name, ← x n a scope)) (do return (name, ← y b scope')) :=
    (hx a b hab).bind fun _ => follows_pure rfl
  have hlookup := htable.lookup name
  unfold property
  generalize table.lookup name = a?, table'.lookup name = b? at hlookup
  cases hlookup with
  | none => exact (anySchema_follows hkind).bind fun schema schema' hab => hvalue hab
  | some hab => exact hvalue hab

theorem object_follows (hkind : ∀ kind : Kind, R kind.toSchema kind.toSchema)
    (hx : ∀ a b, R a b → SameSample (fun n => x n a scope) (y b scope'))
    (h : Node.ReadsAlike bareKeywords R node node') :
    SameSample (fun n => object (x n) node scope) (object y node' scope') := by
  unfold object
  rw [PropertyNames.select_eq h]
  refine (sameSample_of_steady (PropertyNames.steady_select node')).bind fun names => ?_
  have htable := PropertyTable.ofNode_alike h
  refine Follows.bind (Follows.imp (follows_ofExcept htable) (fun _ _ h => h) ?_)
    fun table table' htable => ?_
  · rintro e _ rfl
    exact SameCategory.refl e
  · have hnames : List.Forall₂ (· = ·) names names := List.forall₂_same.mpr fun _ _ => rfl
    refine (follows_sequence_map (R := (· = ·)) ?_ hnames).bind fun fields fields' hfields => ?_
    · rintro name _ rfl
      exact property_follows hkind hx htable name
    · rw [List.forall₂_eq_eq_eq] at hfields
      subst hfields
      exact follows_pure rfl

theorem ofKind_follows (hmode : s.settings.multiples = s'.settings.multiples)
    (hkind : ∀ kind : Kind, R kind.toSchema kind.toSchema)
    (hx : ∀ a b, R a b → SameSample (fun n => x n a scope) (y b scope'))
    (h : Node.ReadsAlike bareKeywords R node node') (kind : Kind) :
    SameSample (fun n => s.ofKind (x n) node scope kind) (s'.ofKind y node' scope' kind) := by
  cases kind with
  | null => exact follows_pure rfl
  | boolean => exact (sameSample_of_steady steady_boolean).bind fun _ => follows_pure rfl
  | integer =>
      show SameSample (fun _ => s.integer node) (s'.integer node')
      rw [integer_eq hmode h.same]
      exact sameSample_of_steady (steady_integer s' node')
  | number =>
      show SameSample (fun _ => s.number node) (s'.number node')
      rw [number_eq hmode h.same]
      exact sameSample_of_steady (steady_number s' node')
  | string =>
      show SameSample (fun _ => string node) (string node')
      rw [string_eq h.same]
      exact sameSample_of_steady (steady_string node')
  | array => exact array_follows hkind hx h
  | object => exact object_follows hkind hx h

/-! ## Nodes without references -/

/-- What a node is sampled as that is no reference. -/
def ofBare (s : Sampler) (descend : Descent σ) (node : Node) (parent : Option Json) :
    Draw σ SchemaError Json := do
  if node.has "enum" then
    match ← Draw.element ((node.array? "enum").getD []) with
    | some member => return member
    | none => Draw.fail (.malformed (.enumEmpty node.toJson))
  else
    match node.value? "const" with
    | some constant => return constant
    | none => s.ofKind descend node (s.scopeOf node parent) (← kind node)

theorem ofNode_eq_ofBare (s : Sampler) (descend : Descent σ) (node : Node) (parent : Option Json) :
    s.ofNode descend node parent
      = if node.has "$ref" then
          match node.string? "$ref" with
          | some reference => s.follow descend reference node parent
          | none => Draw.fail (.malformed (.referenceNotString node.toJson))
        else s.ofBare descend node parent := rfl

theorem ofBare_follows {parent' : Option Json}
    (hmode : s.settings.multiples = s'.settings.multiples)
    (hkind : ∀ kind : Kind, R kind.toSchema kind.toSchema)
    (hx : ∀ a b, R a b →
      SameSample (fun n => x n a (s.scopeOf node parent)) (y b (s'.scopeOf node' parent')))
    (h : Node.ReadsAlike bareKeywords R node node') :
    SameSample (fun n => s.ofBare (x n) node parent) (s'.ofBare y node' parent') := by
  unfold ofBare
  rw [h.same.has (by decide : "enum" ∈ plainKeywords),
    h.same.array? (by decide : "enum" ∈ plainKeywords), h.same "const" (by decide)]
  split
  · refine (sameSample_of_steady (steady_element _)).bind fun member? => ?_
    cases member? with
    | some member => exact follows_pure rfl
    | none => exact follows_fail rfl
  · split
    · exact follows_pure rfl
    · exact (kind_follows h.same).bind fun kind => ofKind_follows hmode hkind hx h kind

/-! ## The step -/

theorem ofNode_follows (hx : Carries s R parent x y)
    (h : FieldsAlike R node.fields node'.fields) :
    SameSample (fun n => s.ofNode (x n) node parent) (s.ofNode y node' parent) := by
  have hreads := Node.readsAlike_of_alike hx.refl h
  simp only [ofNode_eq_ofBare]
  rw [hreads.same.has (by decide : "$ref" ∈ plainKeywords),
    hreads.same.string? (by decide : "$ref" ∈ plainKeywords)]
  split
  · split
    · exact follow_follows hx h _
    · exact follows_fail rfl
  · refine ofBare_follows rfl (fun kind => hx.refl _) (fun a b hab => ?_) hreads
    rw [hx.scope h]
    exact hx.related node' a b hab

/-- Steps for schemas that are alike inside follow one another if the descents
into related schemas do. -/
theorem step_follows (hx : Carries s R parent x y) {f g : Fields} (h : FieldsAlike R f g) :
    SameSample (fun n => s.step (x n) (.object f) parent) (s.step y (.object g) parent) := by
  refine Follows.bind (follows_ofExcept (R := fun n n' : Node => FieldsAlike R n.fields n'.fields)
    (.ok h)) fun node node' hnode => ?_
  refine (Overlay.resolve_follows hnode SameCategory.refl).bind fun overlaid overlaid' hover => ?_
  cases hover with
  | none => exact ofNode_follows hx hnode
  | some hover => exact ofNode_follows hx hover

end Specimen.Sampler
