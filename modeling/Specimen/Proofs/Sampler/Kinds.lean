import Specimen.Proofs.Sampler.Plain
import Specimen.Random.Scripted

/-!
# The kinds of samples

A node that holds no branches, refers to nothing and lists no values is sampled by
its type alone: one of the kinds that it names is drawn and a value of that kind is
made, whatever else the node says and whatever the settings are.

Integers are the exception. Both numeric kinds multiply what they draw by the step
of the node, and a step with a fraction carries the fraction over into a value that
was to be an integer (`sampleWithin_integer_half`). With an integral step the
product is integral in both of its forms, the integer and, past 64 bits, the
rounded number.
-/

namespace Specimen

/-- The values of a kind. A number is an integer if it has no fraction, however it
is written. -/
def Kind.Includes : Kind → Json → Prop
  | integer, v =>
    (∃ n : Int, v = .number (.int n)) ∨ ∃ x : Double, v = .number (.float x) ∧ x.isIntegral = true
  | kind, v => kind.Holds v

/-- The keywords that come before the type where a value is made. -/
def keywordsBeforeType : List String := ["$ref", "enum", "const", "allOf", "anyOf", "oneOf"]

/-- A value of a kind as it is made for a node: an integer can have a fraction if
the step has one. -/
def Kind.MadeFor (node : Node) (kind : Kind) (v : Json) : Prop :=
  kind.Includes v
    ∨ kind = .integer ∧ node.step.isIntegral = false ∧ ∃ x : Double, v = .number (.float x)

namespace Sampler

open Draw

variable {σ : Type} [Source σ] {E : SchemaError → Prop}

/-! ## Numbers -/

theorem ofDouble_eq_ok {x : Double} {v : Json} (h : ofDouble x = .ok v) :
    v = .number (.float x) ∧ x.isFinite = true := by
  unfold ofDouble at h
  split at h
  · next hfinite =>
      cases h
      exact ⟨rfl, hfinite⟩
  · cases h

/-- A scaled integer is an integer, or has as much of a fraction as the step. -/
theorem scaled_eq_ok {n : Int} {step : Double} {v : Json} (h : scaled n step = .ok v) :
    Kind.integer.Includes v ∨ step.isIntegral = false ∧ ∃ x : Double, v = .number (.float x) := by
  unfold scaled at h
  dsimp only at h
  split at h
  · cases h
    exact .inl (.inl ⟨_, rfl⟩)
  · obtain ⟨rfl, hfinite⟩ := ofDouble_eq_ok h
    cases hstep : step.isIntegral with
    | false => exact .inr ⟨rfl, _, rfl⟩
    | true =>
        obtain ⟨hn, -, -⟩ := Double.mul_of_isFinite hfinite
        have hintegral := Double.isIntegral_mul (Double.isIntegral_ofInt hn) hstep hfinite
        exact .inl (.inr ⟨_, rfl, hintegral⟩)

theorem scaled_number {n : Int} {step : Double} {v : Json} (h : scaled n step = .ok v) :
    Kind.number.Includes v := by
  rcases scaled_eq_ok h with (⟨n, rfl⟩ | ⟨x, rfl, -⟩) | ⟨-, x, rfl⟩
  · exact ⟨_, rfl⟩
  · exact ⟨_, rfl⟩
  · exact ⟨_, rfl⟩

theorem integer_made (s : Sampler) (node : Node) :
    Ensures (s.integer node : Draw σ SchemaError Json) (Kind.integer.MadeFor node)
      fun _ => True := by
  have hdrawn (lo hi : Int) : Ensures
      (do
        let n ← intBetween lo hi
        ofExcept (scaled n node.step) : Draw σ SchemaError Json)
      (Kind.integer.MadeFor node) fun _ => True := by
    refine ensures_trivial.bind fun n _ => ensures_ofExcept (fun v hv => ?_) fun _ _ => trivial
    exact (scaled_eq_ok hv).imp_right fun h => ⟨rfl, h⟩
  unfold integer
  refine ensures_trivial.bind fun _ _ => ?_
  dsimp only
  split
  · exact ensures_trivial.bind fun _ _ => hdrawn _ _
  · exact hdrawn _ _

theorem number_made (s : Sampler) (node : Node) :
    Ensures (s.number node : Draw σ SchemaError Json) Kind.number.Includes fun _ => True := by
  unfold number
  refine ensures_trivial.bind fun _ _ => ?_
  dsimp only
  split
  · refine ensures_trivial.bind fun _ _ => ensures_trivial.bind fun n _ => ?_
    exact ensures_ofExcept (fun v hv => scaled_number hv) fun _ _ => trivial
  · refine ensures_trivial.bind fun x _ => ?_
    refine ensures_ofExcept (fun v hv => ?_) fun _ _ => trivial
    exact ⟨_, (ofDouble_eq_ok hv).1⟩

/-! ## The other kinds -/

theorem string_made (node : Node) :
    Ensures (string node : Draw σ SchemaError Json) Kind.string.Includes fun _ => True := by
  unfold string
  refine ensures_trivial.bind fun format? _ => ?_
  cases format? with
  | some format => exact ensures_trivial.bind fun _ _ => ensures_pure ⟨_, rfl⟩
  | none =>
      cases node.string? "pattern" with
      | some source =>
          exact ensures_trivial.bind fun _ _ => ensures_trivial.bind fun _ _ =>
            ensures_pure ⟨_, rfl⟩
      | none => exact ensures_trivial.bind fun _ _ => ensures_pure ⟨_, rfl⟩

theorem array_made (descend : Descent σ) (node : Node) (scope : Json) :
    Ensures (array descend node scope) Kind.array.Includes fun _ => True := by
  have hfilled (schemas : List Json) (count : Nat) : Ensures
      (do
        let items ← Draw.sequence ((slotSchemas schemas count).map fun a => descend a scope)
        return .array (if node.flag "uniqueItems" then distinctItems [] items
          else items) : Draw σ SchemaError Json)
      Kind.array.Includes fun _ => True :=
    ensures_trivial.bind fun _ _ => ensures_pure ⟨_, rfl⟩
  unfold array
  refine ensures_trivial.bind fun schemas _ => ensures_trivial.bind fun count _ => ?_
  dsimp only
  split
  · exact ensures_trivial.bind fun schema _ => hfilled _ _
  · exact hfilled _ _

theorem object_made (descend : Descent σ) (node : Node) (scope : Json) :
    Ensures (object descend node scope) Kind.object.Includes fun _ => True := by
  unfold object
  refine ensures_trivial.bind fun _ _ => ensures_trivial.bind fun _ _ => ?_
  exact ensures_trivial.bind fun _ _ => ensures_pure ⟨_, rfl⟩

/-- The value that is made for a kind is of that kind, but for the integers. -/
theorem ofKind_made (s : Sampler) (descend : Descent σ) (node : Node) (scope : Json)
    (kind : Kind) :
    Ensures (s.ofKind descend node scope kind) (kind.MadeFor node) fun _ => True := by
  cases kind with
  | null => exact ensures_pure (.inl rfl)
  | boolean => exact boolean_ensures.bind fun b _ => ensures_pure (.inl (Exists.intro b rfl))
  | integer => exact integer_made s node
  | number => exact (number_made s node).imp_value fun _ => .inl
  | string => exact (string_made node).imp_value fun _ => .inl
  | array => exact (array_made descend node scope).imp_value fun _ => .inl
  | object => exact (object_made descend node scope).imp_value fun _ => .inl

/-! ## The drawn kind -/

theorem name_of_ofName {name : String} {kind : Kind} (h : Kind.ofName name = .ok kind) :
    kind.name = name := by
  unfold Kind.ofName at h
  split at h
  · next found =>
      cases h
      have hname := List.find?_some found
      exact of_decide_eq_true hname
  · cases h

/-- Only kinds that the node names are drawn. -/
theorem kind_named (node : Node) :
    Ensures (kind node : Draw σ SchemaError Kind)
      (fun k => ∃ value, node.value? "type" = some value ∧ NamesKind value k)
      fun _ => True := by
  unfold kind
  cases hvalue : node.value? "type" with
  | none => exact ensures_fail trivial
  | some value =>
      cases value with
      | string name =>
          refine ensures_ofExcept (fun k hk => ⟨_, rfl, .inl ?_⟩) fun _ _ => trivial
          rw [name_of_ofName hk]
      | array names =>
          refine (element_ensures names).bind fun name? hname => ?_
          rcases hname with ⟨-, rfl⟩ | ⟨name, hmem, rfl⟩
          · exact ensures_fail trivial
          · cases name with
            | string name =>
                refine ensures_ofExcept (fun k hk => ⟨_, rfl, .inr ⟨names, rfl, ?_⟩⟩)
                  fun _ _ => trivial
                rw [name_of_ofName hk]
                exact hmem
            | _ => exact ensures_fail trivial
      | _ => exact ensures_fail trivial

/-! ## Samples -/

/-- One step of the descent into a node that has none of the keywords before the
type. -/
theorem step_made (s : Sampler) (descend : Descent σ) {fields : Fields}
    (habsent : ∀ keyword ∈ keywordsBeforeType, fields.get? keyword = none)
    (parent : Option Json) :
    Ensures (s.step descend (.object fields) parent)
      (fun v => ∃ value kind, fields.get? "type" = some value ∧ NamesKind value kind
        ∧ kind.MadeFor ⟨fields⟩ v) fun _ => True := by
  have hlacks {keyword : String} (hkeyword : keyword ∈ keywordsBeforeType) :
      (⟨fields⟩ : Node).Lacks keyword := Node.lacks_of_value? (habsent keyword hkeyword)
  refine Ensures.bind (Q := (· = ⟨fields⟩)) (ensures_pure rfl) ?_
  rintro _ rfl
  rw [resolve_eq_none (hlacks (by decide)).array? (hlacks (by decide)).array?
    (hlacks (by decide)).array?]
  refine Ensures.bind (Q := (· = none)) (ensures_pure rfl) ?_
  rintro _ rfl
  show Ensures (s.ofNode descend ⟨fields⟩ parent) _ _
  unfold ofNode
  rw [(hlacks (by decide)).has, (hlacks (by decide)).has, (hlacks (by decide)).value?]
  refine (kind_named ⟨fields⟩).bind fun kind ⟨value, hget, hnames⟩ => ?_
  exact (ofKind_made s descend ⟨fields⟩ _ kind).imp_value fun v hv => ⟨value, kind, hget, hnames, hv⟩

/-- A sample of a schema with a type is of one of the kinds that the type names. Where
it is made as an integer and the step has a fraction, it may be another number. -/
theorem sampleWithin_made (s : Sampler) {fields : Fields}
    (habsent : ∀ keyword ∈ keywordsBeforeType, fields.get? keyword = none)
    (parent : Option Json) :
    Ensures (s.sampleWithin (.object fields) parent : Draw σ SchemaError Json)
      (fun v => ∃ value kind, fields.get? "type" = some value ∧ NamesKind value kind
        ∧ kind.MadeFor ⟨fields⟩ v) fun _ => True := by
  refine ensures_limit.bind fun depth _ => ?_
  cases depth with
  | zero => exact ensures_endless
  | succ depth => exact step_made s _ habsent parent

/-- A node of one type, with none of the keywords that come before the type, is sampled as a
value of its kind. -/
theorem sampleWithin_ofKind (s : Sampler) {node : Node} {k : Kind}
    (habsent : ∀ keyword ∈ keywordsBeforeType, node.value? keyword = none)
    (htype : node.value? "type" = some (.string k.name)) (parent : Option Json) {limit : Nat}
    (hlimit : 0 < limit) (src : σ) :
    ∃ descend scope, (s.sampleWithin node.toJson parent).run limit src
      = (s.ofKind descend node scope k : Draw σ SchemaError Json).run limit src := by
  obtain ⟨depth, rfl⟩ : ∃ depth, limit = depth + 1 := ⟨limit - 1, by omega⟩
  have hlacks {keyword : String} (hkeyword : keyword ∈ keywordsBeforeType) : node.Lacks keyword :=
    Node.lacks_of_value? (habsent keyword hkeyword)
  have hresolve : (Overlay.resolve node : Draw σ SchemaError (Option Node)) = pure none :=
    resolve_eq_none (hlacks (by decide)).array? (hlacks (by decide)).array?
      (hlacks (by decide)).array?
  have hkind : (kind node : Draw σ SchemaError Kind) = pure k := by
    unfold kind
    rw [htype]
    dsimp only
    rw [ofName_name]
    rfl
  have hnode : s.ofNode (s.value depth) node parent
      = (s.ofKind (s.value depth) node (s.scopeOf node parent) k : Draw σ SchemaError Json) := by
    unfold ofNode
    rw [(hlacks (by decide)).has, (hlacks (by decide)).has, (hlacks (by decide)).value?, hkind]
    rfl
  refine ⟨s.value depth, s.scopeOf node parent, ?_⟩
  show (s.step (s.value depth) node.toJson parent).run (depth + 1) src = _
  have hstep : (s.step (s.value depth) node.toJson parent : Draw σ SchemaError Json)
      = Overlay.resolve node >>= fun overlaid =>
        s.ofNode (s.value depth) (overlaid.getD node) parent := rfl
  rw [hstep, hresolve]
  show (s.ofNode (s.value depth) node parent).run (depth + 1) src = _
  rw [hnode]

/-! ## Integers with a fraction -/

omit [Source σ] in
/-- A run that ends with a number is known by the number. -/
theorem run_of_number {x : Draw σ SchemaError Json} {limit : Nat} {src : σ} {n : Number}
    (h : (x.run limit src).1.toOption.bind Json.number? = some n) :
    x.run limit src = (.ok (.number n), (x.run limit src).2) := by
  obtain ⟨v, hv, hn⟩ := Option.bind_eq_some_iff.mp h
  refine run_of_toOption (hv.trans ?_)
  cases v with
  | number _ => cases hn; rfl
  | _ => cases hn

/-- The integer one as a multiple of a step. -/
def oneStep (step : Number) : Fields :=
  [("maximum", .number (.int 1)), ("minimum", .number (.int 1)), ("multipleOf", .number step),
    ("type", .string "integer")]

theorem sampleWithin_made_three :
    ∃ rest : Scripted, (sampleWithin ⟨{}, ⟨"."⟩, DocumentTable.empty.toLoader⟩
        (.object (oneStep (.int 3))) none).run 1 ⟨[0], 0⟩ = (.ok (.number (.int 3)), rest)
      ∧ Kind.integer.MadeFor ⟨oneStep (.int 3)⟩ (.number (.int 3)) := by
  have hrun : (sampleWithin ⟨{}, ⟨"."⟩, DocumentTable.empty.toLoader⟩ (.object (oneStep (.int 3)))
      none).run 1 (⟨[0], 0⟩ : Scripted) = (.ok (.number (.int 3)), _) :=
    run_of_number (by decide +kernel)
  refine ⟨_, hrun, ?_⟩
  obtain ⟨value, kind, ⟨⟩, hname | ⟨_, ⟨⟩, -⟩, hmade⟩ :=
    (sampleWithin_made _ (by decide) none).value hrun
  have hkind : kind = .integer := by
    cases kind <;> first | rfl | exact absurd (Json.string.inj hname) (by decide)
  exact hkind ▸ hmade

/-- With the step one half a sample of an integer is one half. -/
theorem sampleWithin_integer_half :
    ∃ (half : Double) (rest : Scripted), half.toRat = 1 / 2
      ∧ (sampleWithin ⟨{}, ⟨"."⟩, DocumentTable.empty.toLoader⟩ (.object (oneStep (.float half)))
          none).run 1 ⟨[0], 0⟩ = (.ok (.number (.float half)), rest)
      ∧ ¬ Kind.integer.Includes (.number (.float half)) := by
  refine ⟨⟨0x3FE0000000000000⟩, _, by decide +kernel, run_of_number (by decide +kernel), ?_⟩
  rintro (⟨n, hn⟩ | ⟨x, hx, hintegral⟩)
  · cases hn
  · cases hx
    exact absurd hintegral (by decide +kernel)

end Sampler

end Specimen
