import Specimen.Proofs.Sampler.Alike
import Specimen.Proofs.Schema.Unread
import Specimen.Random.Scripted

/-!
# Samples without references

A schema that holds no references is sampled without a look at what is around it: keywords
that no node is read for, the schemas around, the place where pointers start, the directory
and the documents at hand make no difference (`sampleWithin_unread`). Of the settings only
the one for multiples does.

The proof descends into both schemas at once. What lies around a schema differs on the
way, since it shows the unread keywords, so the descents are compared for any two of them.
-/

namespace Specimen.Sampler

open Draw

variable {σ : Type} [Source σ] {R : Json → Json → Prop} {s s' : Sampler}

/-! ## The step -/

theorem ofNode_of_unreferenced (s : Sampler) (descend : Descent σ) {node : Node}
    (parent : Option Json) (h : node.value? "$ref" = none) :
    s.ofNode descend node parent = s.ofBare descend node parent := by
  have hhas : node.has "$ref" = false := congrArg Option.isSome h
  rw [ofNode_eq_ofBare, hhas]
  rfl

theorem ofNode_unread {node node' : Node} {x : Nat → Descent σ} {y : Descent σ}
    (hmode : s.settings.multiples = s'.settings.multiples) (hR : ClosedInwards R)
    (hx : ∀ a b parent parent', R a b → SameSample (fun n => x n a parent) (y b parent'))
    (h : node.ReadsBare R node') (parent parent' : Option Json) :
    SameSample (fun n => s.ofNode (x n) node parent) (s'.ofNode y node' parent') := by
  have href' : node'.value? "$ref" = none := by
    rw [← h.bare.same "$ref" (by decide), h.unreferenced]
  simp only [ofNode_of_unreferenced _ _ _ h.unreferenced, ofNode_of_unreferenced _ _ _ href']
  exact ofBare_follows hmode hR.kind (fun a b hab => hx a b _ _ hab) h.bare

/-- Steps into related schemas follow one another if the descents from there do,
whatever is around. -/
theorem step_unread {x : Nat → Descent σ} {y : Descent σ}
    (hmode : s.settings.multiples = s'.settings.multiples) (hR : ClosedInwards R)
    (hx : ∀ a b parent parent', R a b → SameSample (fun n => x n a parent) (y b parent'))
    {a b : Json} (hab : R a b) (parent parent' : Option Json) :
    SameSample (fun n => s.step (x n) a parent) (s'.step y b parent') := by
  cases hR.bare a b hab with
  | noObject h =>
      cases a with
      | object f => cases h
      | _ => exact follows_fail rfl
  | object href h =>
      have hnode := Node.readsBare_of_alike href h
      refine Follows.bind (follows_ofExcept (R := Node.ReadsBare R) (.ok hnode))
        fun node node' hnode => ?_
      refine (hnode.resolve hR SameCategory.refl).bind fun overlaid overlaid' hover => ?_
      cases hover with
      | none => exact ofNode_unread hmode hR hx hnode parent parent'
      | some hover => exact ofNode_unread hmode hR hx hover parent parent'

/-! ## The descent -/

theorem value_unread (hmode : s.settings.multiples = s'.settings.multiples)
    (hR : ClosedInwards R) :
    ∀ (depth : Nat) (a b : Json) (parent parent' : Option Json), R a b →
      SameSample (fun n => (s.value n a parent : Draw σ SchemaError Json))
        (s'.value depth b parent')
  | 0, _, _, _, _, _ => follows_endless
  | depth + 1, _, _, parent, parent', hab =>
      .of_succ (step_unread hmode hR (value_unread hmode hR depth) hab parent parent')

/-- Schemas without references that are the same to read have the same samples, whatever
is around them: the same values come from the same words, and there are failures of the
same category. -/
theorem sampleWithin_unread (hmode : s.settings.multiples = s'.settings.multiples) {a b : Json}
    (h : SameRead a b) (hfree : ReferenceFree a) (parent parent' : Option Json) (src rest : σ) :
    (∀ v, (∃ limit, (s.sampleWithin a parent).run limit src = (.ok v, rest))
        ↔ ∃ limit, (s'.sampleWithin b parent').run limit src = (.ok v, rest))
      ∧ ∀ category,
        (∃ limit e, (s.sampleWithin a parent).run limit src = (.error (.failed e), rest)
            ∧ e.category = category)
          ↔ ∃ limit e, (s'.sampleWithin b parent').run limit src = (.error (.failed e), rest)
            ∧ e.category = category := by
  have hab : SameSample (fun _ => (s.sampleWithin a parent : Draw σ SchemaError Json))
      (s'.sampleWithin b parent') :=
    follows_limit_bind fun depth =>
      value_unread hmode closedInwards_sameRead depth a b parent parent' ⟨h, hfree⟩
  have hba : SameSample (fun _ => (s'.sampleWithin b parent' : Draw σ SchemaError Json))
      (s.sampleWithin a parent) :=
    follows_limit_bind fun depth =>
      value_unread hmode.symm closedInwards_sameRead.flip depth b a parent' parent ⟨h, hfree⟩
  exact ⟨fun v => ⟨hba.value_of, hab.value_of⟩,
    fun category => ⟨hba.failure_of, hab.failure_of⟩⟩

/-! ## Titles -/

/-- A schema for an object with one property, which is declared in a branch. -/
def withBranch (branch : Fields) : Json :=
  .object [("allOf", .array [.object branch]), ("required", .array [.string "x"]),
    ("type", .string "object")]

def untitled : Fields := [("properties", .object [("x", Kind.null.toSchema)])]

/-- The same branch with a title, and with one for the property. -/
def titled : Fields :=
  [("properties", .object [("x", .object [("title", .string "a"), ("type", .string "null")])]),
    ("title", .string "b")]

theorem sameRead_titled : SameRead (withBranch untitled) (withBranch titled) := by
  have hproperty : SameRead Kind.null.toSchema
      (.object [("title", .string "a"), ("type", .string "null")]) :=
    .object (.right (by decide) (.both (.same nofun) .nil))
  have hbranch : SameRead (.object untitled) (.object titled) :=
    .object (.both (.table (by decide) (.cons hproperty .nil)) (.right (by decide) .nil))
  exact .object (.both (.schemas (.inr (by decide)) (.cons hbranch .nil))
    (.refl fun _ _ c _ => .refl c))

theorem referenceFree_untitled : ReferenceFree (withBranch untitled) := by
  have hbranch : ReferenceFree (.object untitled) := by
    refine referenceFree_object (by decide) fun c hholds => ?_
    cases hholds with
    | under hmem hunder =>
        cases List.mem_singleton.mp hmem
        cases List.mem_singleton.mp hunder
        exact referenceFree_toSchema .null
  refine referenceFree_object (by decide) fun c hholds => ?_
  cases hholds with
  | under hmem hunder =>
      simp only [List.mem_cons, Prod.mk.injEq, List.not_mem_nil, or_false] at hmem
      rcases hmem with ⟨rfl, rfl⟩ | ⟨rfl, rfl⟩ | ⟨rfl, rfl⟩
      · cases List.mem_singleton.mp hunder
        exact hbranch
      · cases hunder
      · cases hunder

/-- A sampler that shares nothing but the way of multiples with one that has the usual
settings. -/
def elsewhere : Sampler :=
  ⟨{ schemaDir := some ⟨"sub"⟩, refScope := .document }, ⟨"sub"⟩,
    DocumentTable.toLoader ⟨[(⟨"sub/a.json"⟩, .null)]⟩⟩

/-- Titles, another sampler and a schema around leave the sample as it is. -/
theorem sampleWithin_unread_titled :
    SameRead (withBranch untitled) (withBranch titled) ∧ ReferenceFree (withBranch untitled)
      ∧ ∃ (rest : Scripted) (limit : Nat),
        (elsewhere.sampleWithin (withBranch titled) (some .null)).run limit ⟨[0], 0⟩
          = (.ok (.object [("x", .null)]), rest) := by
  have hmode : (ofLoader DocumentTable.empty.toLoader).settings.multiples
      = elsewhere.settings.multiples := rfl
  refine ⟨sameRead_titled, referenceFree_untitled, _,
    ((sampleWithin_unread hmode sameRead_titled referenceFree_untitled none (some .null)
      _ _).1 _).mp ⟨2, run_of_toOption ?_⟩⟩
  set_option maxRecDepth 20000 in
  rfl

end Specimen.Sampler
