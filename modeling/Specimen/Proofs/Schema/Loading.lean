import Specimen.Proofs.Json.Valid
import Specimen.Schema.Reference

/-!
# Loaded documents are valid

Both languages in which a document can be written give valid documents only: a literal beyond
64 bits or beyond the floating-point numbers is no integer or is refused, and fields are put
in order (`Json.isValid_of_read?`, `Yaml.isValid_of_read?`). The documents inside a valid one
are valid, so a reference leads to valid documents wherever it leads
(`Reference.isValid_of_resolve`).
-/

namespace Specimen

namespace Json

/-! ## Documents in JSON -/

theorem isValid_of_numberOf? {negative : Bool} {whole : List Char} {fraction : Option (List Char)}
    {exponent : Option Int} {n : Number} (h : numberOf? negative whole fraction exponent = some n) :
    n.IsValid := by
  have hfloat {x : Double} {n : Number}
      (h : (if x.isFinite then some (Number.float x) else none) = some n) : n.IsValid := by
    split at h
    · next hfinite =>
        cases h
        exact .float hfinite
    · cases h
  unfold numberOf? at h
  cases negative with
  | true =>
      simp only [if_pos] at h
      split at h
      · next hinteger =>
          cases h
          simp only [Bool.and_eq_true, decide_eq_true_eq] at hinteger
          exact .int (by unfold int64Min; omega) (by unfold uint64Max; omega)
      · exact hfloat h
  | false =>
      simp only [Bool.false_eq_true, if_false] at h
      split at h
      · next hinteger =>
          cases h
          simp only [Bool.and_eq_true, decide_eq_true_eq] at hinteger
          exact .int (by unfold int64Min; omega) (by exact_mod_cast hinteger.2)
      · exact hfloat h

theorem isValid_of_readNumber? {s rest : List Char} {n : Number}
    (h : readNumber? s = some (n, rest)) : n.IsValid := by
  unfold readNumber? at h
  obtain ⟨_, -, h⟩ := Option.bind_eq_some_iff.mp h
  obtain ⟨_, -, h⟩ := Option.bind_eq_some_iff.mp h
  obtain ⟨_, -, h⟩ := Option.bind_eq_some_iff.mp h
  obtain ⟨m, hnumber, h⟩ := Option.bind_eq_some_iff.mp h
  cases h
  exact isValid_of_numberOf? hnumber

theorem itemsHoldNumbers_iff {items : List Json} :
    ItemsHoldNumbers items ↔ ∀ item ∈ items, item.HoldsNumbers := by
  induction items with
  | nil => simp [ItemsHoldNumbers]
  | cons item rest ih => simp [ItemsHoldNumbers, ih]

theorem fieldsHoldNumbers_iff {fields : List (String × Json)} :
    FieldsHoldNumbers fields ↔ ∀ field ∈ fields, field.2.HoldsNumbers := by
  induction fields with
  | nil => simp [FieldsHoldNumbers]
  | cons field rest ih => simp [FieldsHoldNumbers, ih]

/-- What holds of the members read before and of the next one holds of both. -/
theorem forall_mem_next {α : Type} {P : α → Prop} {done : List α} {next : α}
    (hdone : ∀ a ∈ done, P a) (hnext : P next) : ∀ a ∈ next :: done, P a := by
  intro a ha
  rcases List.mem_cons.mp ha with rfl | ha
  · exact hnext
  · exact hdone a ha

mutual

theorem holdsNumbers_of_readValue? : ∀ (fuel depth : Nat) (s : List Char) {d : Json}
    {rest : List Char}, readValue? fuel depth s = some (d, rest) → d.HoldsNumbers
  | 0, _, _, _, _, h => by cases h
  | fuel + 1, depth, s, d, rest, h => by
      rw [readValue?] at h
      split at h
      · cases h
        trivial
      · cases h
        trivial
      · cases h
        trivial
      · obtain ⟨_, -, heq⟩ := Option.map_eq_some_iff.mp h
        cases heq
        trivial
      · cases depth with
        | zero => cases h
        | succ depth =>
            dsimp only at h
            split at h
            · cases h
              trivial
            · obtain ⟨_, hitems, heq⟩ := Option.map_eq_some_iff.mp h
              cases heq
              exact itemsHoldNumbers_iff.mpr
                (holdNumbers_of_readItems? fuel depth _ (List.forall_mem_nil _) hitems)
      · cases depth with
        | zero => cases h
        | succ depth =>
            dsimp only at h
            split at h
            · cases h
              trivial
            · obtain ⟨_, hfields, heq⟩ := Option.map_eq_some_iff.mp h
              cases heq
              exact fieldsHoldNumbers_iff.mpr
                (holdNumbers_of_readFields? fuel depth _ (List.forall_mem_nil _) hfields)
      · obtain ⟨_, hnumber, heq⟩ := Option.map_eq_some_iff.mp h
        cases heq
        exact isValid_of_readNumber? hnumber

theorem holdNumbers_of_readItems? : ∀ (fuel depth : Nat) (s : List Char) {done items : List Json}
    {rest : List Char}, (∀ item ∈ done, item.HoldsNumbers) →
    readItems? fuel depth done s = some (items, rest) → ∀ item ∈ items, item.HoldsNumbers
  | 0, _, _, _, _, _, _, h => by cases h
  | fuel + 1, depth, s, done, items, rest, hdone, h => by
      rw [readItems?] at h
      split at h
      · cases h
      · next item rest' hitem =>
          have hnext := forall_mem_next hdone (holdsNumbers_of_readValue? fuel depth s hitem)
          split at h
          · exact holdNumbers_of_readItems? fuel depth _ hnext h
          · cases h
            exact fun other hother => hnext other (List.mem_reverse.mp hother)
          · cases h

theorem holdNumbers_of_readFields? : ∀ (fuel depth : Nat) (s : List Char)
    {done fields : List (String × Json)} {rest : List Char},
    (∀ field ∈ done, field.2.HoldsNumbers) →
    readFields? fuel depth done s = some (fields, rest) → ∀ field ∈ fields, field.2.HoldsNumbers
  | 0, _, _, _, _, _, _, h => by cases h
  | fuel + 1, depth, s, done, fields, rest, hdone, h => by
      rw [readFields?] at h
      split at h
      · split at h
        · cases h
        · next name _ _ =>
            split at h
            · split at h
              · cases h
              · next value rest' hvalue =>
                  have hnext : ∀ field ∈ (name, value) :: done, field.2.HoldsNumbers :=
                    forall_mem_next hdone (holdsNumbers_of_readValue? fuel depth _ hvalue)
                  split at h
                  · exact holdNumbers_of_readFields? fuel depth _ hnext h
                  · cases h
                    exact fun other hother => hnext other (List.mem_reverse.mp hother)
                  · cases h
            · cases h
      · cases h

end

theorem isValid_of_read? {text : String} {d : Json} (h : read? text = some d) : d.IsValid := by
  obtain ⟨written, hwritten, rfl⟩ := Option.map_eq_some_iff.mp h
  unfold readWritten? readFront? at hwritten
  split at hwritten
  · next front rest hfront =>
      split at hwritten
      · cases hwritten
        exact isValid_normalize _ (holdsNumbers_of_readValue? _ _ _ hfront)
      · cases hwritten
  · cases hwritten

end Json

namespace Yaml

/-! ## Documents in YAML -/

namespace Scalar

theorem isValid_ofFloat (x : Double) : (ofFloat x).IsValid := by
  unfold ofFloat
  split
  · next hfinite => exact .number (.float hfinite)
  · exact .null

theorem isValid_of_integer? {text : String} {n : Int} (h : integer? text = some (some n)) :
    (Json.number (.int n)).IsValid := by
  unfold integer? at h
  split at h
  · cases h
  · split at h
    · next hrange =>
        cases h
        exact .number (.int hrange.1 hrange.2)
    · split at h <;> cases h

theorem isValid_of_plain? {text : String} {v : Json} (h : plain? text = some v) : v.IsValid := by
  unfold plain? at h
  split at h
  · cases h
    exact .null
  · split at h
    · cases h
      exact .bool _
    · split at h
      · next hinteger =>
          obtain ⟨n, rfl, rfl⟩ := Option.map_eq_some_iff.mp h
          exact isValid_of_integer? hinteger
      · split at h
        · cases h
          exact .string text
        · split at h <;> cases h
          · exact isValid_ofFloat _
          · exact .string text

theorem isValid_of_toJson? {text : String} {style : Style} {tag : Option String} {v : Json}
    (h : toJson? text style tag = some v) : v.IsValid := by
  cases tag with
  | none =>
      unfold toJson? at h
      dsimp only at h
      split at h
      · exact isValid_of_plain? h
      · cases h
        exact .string text
  | some tag =>
      unfold toJson? at h
      dsimp only at h
      split at h
      · cases h
      split at h
      · obtain ⟨b, -, rfl⟩ := Option.map_eq_some_iff.mp h
        exact .bool b
      split at h
      · obtain ⟨_, hinteger, h⟩ := Option.bind_eq_some_iff.mp h
        obtain ⟨n, rfl, rfl⟩ := Option.map_eq_some_iff.mp h
        exact isValid_of_integer? hinteger
      split at h
      · obtain ⟨x, -, rfl⟩ := Option.map_eq_some_iff.mp h
        exact isValid_ofFloat x
      split at h
      · split at h <;> cases h
        exact .null
      · cases h
        exact .string text

end Scalar

namespace Document

variable {α β : Type} {P : α → Prop} {Q : β → Prop}

/-- Whatever a computation with a budget gives satisfies `P`. -/
def Yields (x : Budgeted α) (P : α → Prop) : Prop :=
  ∀ left a rest, x.run left = some (a, rest) → P a

theorem yields_trivial (x : Budgeted α) : Yields x fun _ => True := fun _ _ _ _ => trivial

theorem yields_pure {a : α} (h : P a) : Yields (pure a) P := by
  intro left b rest hrun
  cases hrun
  exact h

theorem yields_failure : Yields (failure : Budgeted α) P := nofun

theorem Yields.bind {x : Budgeted α} {f : α → Budgeted β} (hx : Yields x P)
    (hf : ∀ a, P a → Yields (f a) Q) : Yields (x >>= f) Q := by
  intro left b rest hrun
  rw [StateT.run_bind] at hrun
  obtain ⟨⟨a, between⟩, ha, hb⟩ := Option.bind_eq_some_iff.mp hrun
  exact hf a (hx left a between ha) between b rest hb

theorem yields_mapM {f : α → Budgeted β} {items : List α}
    (hf : ∀ item ∈ items, Yields (f item) Q) : Yields (items.mapM f) fun out => ∀ b ∈ out, Q b := by
  induction items with
  | nil => exact yields_pure (List.forall_mem_nil Q)
  | cons item rest ih =>
      rw [List.mapM_cons]
      refine (hf item List.mem_cons_self).bind fun b hb => ?_
      have hrest := ih fun other hother => hf other (List.mem_cons_of_mem _ hother)
      refine hrest.bind fun out hout => ?_
      exact yields_pure (List.forall_mem_cons.mpr ⟨hb, hout⟩)

/-- One more collection around what may be read of a document. -/
theorem yields_value_step (d : Document) (depth : Nat)
    (ih : ∀ smaller, depth = smaller + 1 → ∀ node, Yields (d.value smaller node) Json.IsValid)
    (node : Node) : Yields (d.value depth node) Json.IsValid := by
  unfold value
  refine (yields_trivial _).bind fun target _ => ?_
  cases target with
  | scalar text style tag =>
      dsimp only
      cases hvalue : Scalar.toJson? text style tag with
      | none => exact yields_failure
      | some v => exact yields_pure (Scalar.isValid_of_toJson? hvalue)
  | sequence items tag =>
      cases depth with
      | zero => exact yields_failure
      | succ depth =>
          dsimp only
          split
          · refine (yields_mapM fun item _ => ih depth rfl item).bind fun out hout => ?_
            exact yields_pure (.array hout)
          · exact yields_failure
  | mapping entries tag =>
      cases depth with
      | zero => exact yields_failure
      | succ depth =>
          dsimp only
          split
          · refine (yields_mapM (Q := fun field : String × Json => field.2.IsValid)
              fun entry _ => ?_).bind fun fields hfields => ?_
            · refine (yields_trivial _).bind fun key _ => (ih depth rfl entry.2).bind fun v hv => ?_
              exact yields_pure hv
            · exact yields_pure (.object (Fields.isOrdered_ofList fields)
                fun field hfield => hfields field (Fields.mem_ofList hfield))
          · exact yields_failure
  | reference number => exact yields_failure

theorem yields_value (d : Document) (depth : Nat) :
    ∀ node, Yields (d.value depth node) Json.IsValid := by
  induction depth with
  | zero => exact d.yields_value_step 0 nofun
  | succ depth ih =>
      refine d.yields_value_step (depth + 1) fun smaller hsmaller => ?_
      obtain rfl := Nat.succ.inj hsmaller
      exact ih

theorem isValid_of_toJson? {d : Document} {v : Json} (h : d.toJson? = some v) : v.IsValid := by
  unfold toJson? at h
  split at h
  · cases h
    exact .null
  · obtain ⟨_, hrun, rfl⟩ := Option.map_eq_some_iff.mp h
    exact yields_value d depthLimit _ _ _ _ hrun

end Document

theorem isValid_of_read? {text : String} {v : Json} (h : read? text = some v) : v.IsValid := by
  obtain ⟨_, -, hvalue⟩ := Option.bind_eq_some_iff.mp h
  exact Document.isValid_of_toJson? hvalue

end Yaml

/-! ## Documents in files -/

theorem isValid_of_parseDocument {p : Path} {text : String} {d : Json}
    (h : parseDocument p text = .ok d) : d.IsValid := by
  unfold parseDocument at h
  dsimp only at h
  split at h
  · next hread =>
      cases h
      cases hdialect : Dialect.ofPath p with
      | json =>
          rw [hdialect] at hread
          exact Json.isValid_of_read? hread
      | yaml =>
          rw [hdialect] at hread
          exact Yaml.isValid_of_read? hread
  · cases h

/-- Every document that there is, is valid. -/
def Loader.LoadsValid (loader : Loader) : Prop := ∀ p d, loader.load p = .ok d → d.IsValid

theorem Loader.loadsValid_ofFiles (files : Files) : (Loader.ofFiles files).LoadsValid := by
  intro p d h
  unfold Loader.ofFiles at h
  dsimp only at h
  split at h
  · cases h
  · exact isValid_of_parseDocument h

/-! ## Documents inside documents -/

namespace Json

theorem IsValid.get? {fields : Fields} {name : String} {v : Json} (h : (Json.object fields).IsValid)
    (hget : fields.get? name = some v) : v.IsValid := by
  cases h with
  | object hordered h => exact h (name, v) (Fields.mem_of_get? hget)

theorem IsValid.follow? {d v : Json} (h : d.IsValid) {steps : List (List Char)}
    (hfollow : Pointer.follow? d steps = some v) : v.IsValid := by
  induction steps generalizing d with
  | nil =>
      cases hfollow
      exact h
  | cons step rest ih =>
      obtain ⟨inner, hstep, hrest⟩ := Option.bind_eq_some_iff.mp hfollow
      refine ih ?_ hrest
      unfold Pointer.step? at hstep
      split at hstep
      · exact h.get? hstep
      · obtain ⟨i, -, hitem⟩ := Option.bind_eq_some_iff.mp hstep
        cases h with
        | array h => exact h inner (List.mem_of_getElem? hitem)
      · cases hstep

theorem IsValid.walk? {d v : Json} (h : d.IsValid) {pointer : String}
    (hwalk : d.walk? pointer = some v) : v.IsValid := h.follow? hwalk

end Json

/-! ## References -/

/-- The documents that a reference leads to are valid. -/
def Resolved.IsValid : Resolved → Prop
  | inline target scope => target.IsValid ∧ scope.IsValid
  | document d => d.IsValid
  | fragment d _ => d.IsValid

namespace Reference

variable {reference : String} {parent : Option Json} {base : Path} {loader : Loader} {r : Resolved}

theorem isValid_of_resolveInline {pointer : String} (hparent : ∀ d ∈ parent, d.IsValid)
    (h : resolveInline reference pointer parent = .ok r) : r.IsValid := by
  unfold resolveInline at h
  split at h
  · cases h
  · next scope =>
      have hscope : scope.IsValid := hparent scope rfl
      split at h
      · cases h
      · next hwalk =>
          cases h
          exact ⟨hscope.walk? hwalk, hscope⟩

theorem isValid_of_resolveExternal (hloader : loader.LoadsValid)
    (h : resolveExternal reference base loader = .ok r) : r.IsValid := by
  unfold resolveExternal at h
  dsimp only at h
  split at h
  · cases hload : loader.load (pathFrom base reference.toList) with
    | error e =>
        rw [hload] at h
        cases h
    | ok d =>
        rw [hload] at h
        cases h
        exact hloader _ d hload
  · split at h
    · cases h
    · split at h
      · split at h
        · cases h
        · next d hload =>
            split at h
            · cases h
              exact hloader _ d hload
            · cases h
      · cases h

theorem isValid_of_resolve (hparent : ∀ d ∈ parent, d.IsValid) (hloader : loader.LoadsValid)
    (h : resolve reference parent base loader = .ok r) : r.IsValid := by
  unfold resolve at h
  split at h
  · exact isValid_of_resolveInline hparent h
  · exact isValid_of_resolveExternal hloader h

end Reference

end Specimen
