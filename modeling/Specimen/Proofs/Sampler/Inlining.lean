import Specimen.Proofs.Sampler.Alike
import Specimen.Random.Scripted

/-!
# References replaced by what they name

A reference that is nothing but a pointer into the document can be replaced by
the object it names. Where all pointers start at the document, this changes no
sample (`sampleWithin_inlined`): a descent that follows the reference comes to
the same object, one level deeper and with the same document around it.

Both directions are simulations by the depth of the other descent. From the side
of the replaced schema all references of a chain are followed within one level
of it, so that direction goes by the chain as well; from the side of the
references every one followed uses up a level, and depth alone carries it.
-/

namespace Specimen

open Draw

/-! ## Replaced references -/

/-- A schema that is a pointer into the document and nothing else. -/
def pointerTo (pointer : String) : Json := .object [("$ref", .string ("#" ++ pointer))]

/-- A schema leads to another through references that are pointers to objects of
the document `d`, any number of them. -/
inductive LeadsTo (d : Json) : Json → Json → Prop
  | refl (a : Json) : LeadsTo d a a
  | follow {pointer : String} {f : Fields} {b : Json} (h : d.walk? pointer = some (.object f))
      (hrest : LeadsTo d (.object f) b) : LeadsTo d (pointerTo pointer) b

/-- A schema with any number of references replaced: itself, if it is one, and
then schemas inside it, of which no branch is replaced as a whole. -/
inductive Inlined (d : Json) : Json → Json → Prop
  | replaced {a b : Json} (h : LeadsTo d a b) : Inlined d a b
  | inside {a : Json} {f g : Fields} (h : LeadsTo d a (.object f))
      (hinside : FieldsAlike (Inlined d) f g) : Inlined d a (.object g)

theorem Inlined.refl (d a : Json) : Inlined d a a := .replaced (.refl a)

namespace Sampler

variable {σ : Type} [Source σ]

/-! ## Descents -/

/-- A descent that ends at some depth ends alike at every greater one. -/
theorem value_steady (s : Sampler) :
    ∀ (depth : Nat) (a : Json) (parent : Option Json),
      SameSample (fun n => (s.value n a parent : Draw σ SchemaError Json)) (s.value depth a parent)
  | 0, _, _ => follows_endless
  | depth + 1, a, parent => by
      refine .of_succ ?_
      have hcarries : Carries s (· = ·) parent (s.value : Nat → Descent σ) (s.value depth) := by
        refine ⟨fun _ => rfl, fun h => ?_, value_steady s depth, fun node a b hab => ?_⟩
        · exact congrArg (fun f => s.scopeOf ⟨f⟩ parent) h.eq
        · exact hab ▸ value_steady s depth a _
      cases a with
      | object f => exact step_follows hcarries (.refl f)
      | _ => exact follows_fail rfl

/-- Where pointers start at the document, a reference is sampled as what it
names. -/
theorem value_pointerTo {s : Sampler} (hscope : s.settings.refScope = .document) {d target : Json}
    {pointer : String} (h : d.walk? pointer = some target) (depth : Nat) :
    (s.value (depth + 1) (pointerTo pointer) d : Draw σ SchemaError Json)
      = s.value depth target d := by
  have hresolve : Reference.resolve ("#" ++ pointer) (some d) s.baseDir s.loader
      = .ok (.inline target d) := by
    unfold Reference.resolve
    rw [String.toList_append]
    show Reference.resolveInline _ (.ofList pointer.toList) (some d) = _
    rw [String.ofList_toList]
    unfold Reference.resolveInline
    simp only [h]
  have hfollow : (s.value (depth + 1) (pointerTo pointer) d : Draw σ SchemaError Json)
      = s.follow (s.value depth) ("#" ++ pointer) ⟨[("$ref", .string ("#" ++ pointer))]⟩ d := rfl
  have hstart (node : Node) : s.pointerStart node (some d) = some d := by
    unfold pointerStart
    rw [hscope]
    rfl
  rw [hfollow, follow_eq, hstart, hresolve]
  rfl

theorem scopeOf_document {s : Sampler} (hscope : s.settings.refScope = .document) (node : Node)
    (d : Json) : s.scopeOf node (some d) = d := by
  unfold scopeOf
  rw [hscope]
  rfl

/-- Descents below the document carry a relation that they follow. -/
theorem carries_document {s : Sampler} (hscope : s.settings.refScope = .document) {d : Json}
    {R : Json → Json → Prop} (hR : ∀ a, R a a) (depth : Nat)
    (h : ∀ a b, R a b →
      SameSample (fun n => (s.value n a d : Draw σ SchemaError Json)) (s.value depth b d)) :
    Carries s R (some d) (s.value : Nat → Descent σ) (s.value depth) where
  refl := hR
  scope _ := by rw [scopeOf_document hscope, scopeOf_document hscope]
  same := value_steady s depth
  related node a b hab := by
    rw [scopeOf_document hscope]
    exact h a b hab

/-! ## Following the replaced schema -/

theorem value_leadsTo {s : Sampler} (hscope : s.settings.refScope = .document) {d a b : Json}
    (h : LeadsTo d a b) {y : Draw σ SchemaError Json}
    (hy : SameSample (fun n => s.value n b d) y) : SameSample (fun n => s.value n a d) y := by
  induction h with
  | refl a => exact hy
  | follow h _ ih =>
      refine .of_succ ?_
      simp only [value_pointerTo hscope h]
      exact ih hy

/-- A schema with references ends wherever the one without them does. -/
theorem value_follows_inlined {s : Sampler} (hscope : s.settings.refScope = .document) {d : Json} :
    ∀ (depth : Nat) (a b : Json), Inlined d a b →
      SameSample (fun n => (s.value n a d : Draw σ SchemaError Json)) (s.value depth b d)
  | 0, _, _, _ => follows_endless
  | depth + 1, a, b, h => by
      cases h with
      | replaced h => exact value_leadsTo hscope h (value_steady s (depth + 1) b d)
      | @inside _ f g h hinside =>
          refine value_leadsTo hscope h (.of_succ ?_)
          exact step_follows (carries_document hscope (Inlined.refl d) depth
            (value_follows_inlined hscope depth)) hinside

/-! ## Following the references -/

/-- A schema without references ends wherever the one with them does. Every
reference that is followed leaves one level less to go. -/
theorem inlined_follows_value {s : Sampler} (hscope : s.settings.refScope = .document) {d : Json} :
    ∀ (depth : Nat) (a b : Json), Inlined d a b →
      SameSample (fun n => (s.value n b d : Draw σ SchemaError Json)) (s.value depth a d)
  | 0, _, _, _ => follows_endless
  | depth + 1, a, b, h => by
      have ih (a b : Json) (h : Inlined d a b) :
          SameSample (fun n => (s.value n b d : Draw σ SchemaError Json)) (s.value depth a d) :=
        inlined_follows_value hscope depth a b h
      cases h with
      | replaced h =>
          cases h with
          | refl => exact value_steady s (depth + 1) a d
          | follow h hrest =>
              rw [value_pointerTo hscope h]
              exact ih _ _ (.replaced hrest)
      | @inside _ f g h hinside =>
          cases h with
          | refl =>
              refine .of_succ (step_follows (carries_document hscope ?_ depth ?_) hinside.flip)
              · exact Inlined.refl d
              · exact fun b a hab => ih a b hab
          | follow h hrest =>
              rw [value_pointerTo hscope h]
              exact ih _ _ (.inside hrest hinside)

/-! ## Samples -/

/-- Replacing references to objects of the document by these objects leaves every
sample as it is: the same values come from the same words, and there are failures
of the same category. -/
theorem sampleWithin_inlined (s : Sampler) (hscope : s.settings.refScope = .document)
    {d a b : Json} (h : Inlined d a b) (src rest : σ) :
    (∀ v, (∃ limit, (s.sampleWithin a d).run limit src = (.ok v, rest))
        ↔ ∃ limit, (s.sampleWithin b d).run limit src = (.ok v, rest))
      ∧ ∀ category,
        (∃ limit e, (s.sampleWithin a d).run limit src = (.error (.failed e), rest)
            ∧ e.category = category)
          ↔ ∃ limit e, (s.sampleWithin b d).run limit src = (.error (.failed e), rest)
            ∧ e.category = category := by
  have hab : SameSample (fun _ => (s.sampleWithin a d : Draw σ SchemaError Json))
      (s.sampleWithin b d) :=
    follows_limit_bind fun depth => value_follows_inlined hscope depth a b h
  have hba : SameSample (fun _ => (s.sampleWithin b d : Draw σ SchemaError Json))
      (s.sampleWithin a d) :=
    follows_limit_bind fun depth => inlined_follows_value hscope depth a b h
  exact ⟨fun v => ⟨hba.value_of, hab.value_of⟩,
    fun category => ⟨hba.failure_of, hab.failure_of⟩⟩

/-- Two references in a row that stand for the schema of a property. -/
theorem sampleWithin_inlined_chain :
    ∃ (rest : Scripted) (limit : Nat),
      (sampleWithin ⟨{ refScope := .document }, ⟨"."⟩, DocumentTable.empty.toLoader⟩
        (.object [("properties", .object [("x", pointerTo "/b")]),
          ("required", .array [.string "x"]), ("type", .string "object")])
        (some (.object [("a", .object [("type", .string "null")]), ("b", pointerTo "/a")]))).run
          limit ⟨[0], 0⟩ = (.ok (.object [("x", .null)]), rest) := by
  have hchain : LeadsTo (.object [("a", .object [("type", .string "null")]), ("b", pointerTo "/a")])
      (pointerTo "/b") (.object [("type", .string "null")]) :=
    .follow rfl (.follow rfl (.refl _))
  have hinlined : Inlined
      (.object [("a", .object [("type", .string "null")]), ("b", pointerTo "/a")])
      (.object [("properties", .object [("x", pointerTo "/b")]),
        ("required", .array [.string "x"]), ("type", .string "object")])
      (.object [("properties", .object [("x", .object [("type", .string "null")])]),
        ("required", .array [.string "x"]), ("type", .string "object")]) :=
    .inside (.refl _) (.cons (.table (by decide) (.cons (.replaced hchain) .nil)) (.refl _))
  refine ⟨_, ((sampleWithin_inlined _ rfl hinlined _ _).1 _).mpr ⟨2, run_of_toOption ?_⟩⟩
  set_option maxRecDepth 20000 in
  rfl

end Sampler

end Specimen
