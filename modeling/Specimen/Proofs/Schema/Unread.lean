import Mathlib.Logic.Relation
import Specimen.Proofs.Schema.Inside
import Specimen.Proofs.Schema.Overlaid

/-!
# Keywords that are not read

Two schemas are the *same to read* if they are equal but for keywords that no node is
read for, in the schemas themselves and in those inside (`SameRead`). Neither the values
nor the places of such keywords matter, and they may be missing.

For a comparison of samples only one level of this counts: a relation is *closed inwards*
if related schemas hold no references and are the same to read up to the schemas directly
inside, which are related again (`ClosedInwards`). One level is kept when branches are
laid over a node (`Node.ReadsBare.resolve`), although the unread keywords of the branches
are laid over as well.
-/

namespace Specimen

open Draw

/-! ## The relation -/

/-- Fields with the same read keywords in the same order and values that are equal up to
the schemas directly inside. -/
inductive FieldsReadAlike (R : Json → Json → Prop) : Fields → Fields → Prop
  | nil : FieldsReadAlike R [] []
  | left {key : String} {a : Json} {f g : Fields} (hkey : key ∉ readKeywords)
      (hrest : FieldsReadAlike R f g) : FieldsReadAlike R ((key, a) :: f) g
  | right {key : String} {b : Json} {f g : Fields} (hkey : key ∉ readKeywords)
      (hrest : FieldsReadAlike R f g) : FieldsReadAlike R f ((key, b) :: g)
  | both {key : String} {a b : Json} {f g : Fields} (h : HeldAlike R a b key)
      (hrest : FieldsReadAlike R f g) : FieldsReadAlike R ((key, a) :: f) ((key, b) :: g)

/-- Schemas that differ in keywords that are not read, here and in the schemas inside. -/
inductive SameRead : Json → Json → Prop
  | refl (a : Json) : SameRead a a
  | object {f g : Fields} (h : FieldsReadAlike SameRead f g) : SameRead (.object f) (.object g)

/-- A schema stands directly inside another. -/
inductive Holds : Json → Json → Prop
  | under {f : Fields} {key : String} {value c : Json} (hmem : (key, value) ∈ f)
      (h : c ∈ schemasUnder key value) : Holds (.object f) c

/-- A schema is no reference, and none of those inside is one. -/
def ReferenceFree (a : Json) : Prop :=
  ∀ f, Relation.ReflTransGen Holds a (.object f) → "$ref" ∉ Fields.names f

theorem ReferenceFree.of_holds {a c : Json} (h : ReferenceFree a) (hholds : Holds a c) :
    ReferenceFree c :=
  fun f hpath => h f (.head hholds hpath)

theorem referenceFree_object {f : Fields} (href : "$ref" ∉ Fields.names f)
    (hinside : ∀ c, Holds (.object f) c → ReferenceFree c) : ReferenceFree (.object f) := by
  intro g hpath
  rcases hpath.cases_head with heq | ⟨c, hholds, hrest⟩
  · cases heq
    exact href
  · exact hinside c hholds g hrest

theorem referenceFree_toSchema (kind : Kind) : ReferenceFree kind.toSchema := by
  have href : "$ref" ∉ Fields.names [("type", .string kind.name)] := by simp [Fields.names]
  refine referenceFree_object href fun c hholds => ?_
  cases hholds with
  | under hmem h =>
      cases List.mem_singleton.mp hmem
      cases h

/-! ## One level -/

/-- Schemas without references that are the same to read up to the schemas directly
inside. -/
inductive BareAlike (R : Json → Json → Prop) : Json → Json → Prop
  | noObject {a : Json} (h : a.isObject = false) : BareAlike R a a
  | object {f g : Fields} (href : f.get? "$ref" = none) (h : FieldsReadAlike R f g) :
      BareAlike R (.object f) (.object g)

/-- Related schemas are the same to read, with related schemas inside. -/
structure ClosedInwards (R : Json → Json → Prop) : Prop where
  kind : ∀ kind : Kind, R kind.toSchema kind.toSchema
  bare : ∀ a b, R a b → BareAlike R a b

variable {R : Json → Json → Prop} {f g : Fields}

theorem FieldsReadAlike.get? (h : FieldsReadAlike R f g) {key : String}
    (hkey : key ∈ readKeywords) : Option.Rel (HeldAlike R · · key) (f.get? key) (g.get? key) := by
  induction h with
  | nil => exact .none
  | left hother _ ih =>
      rw [Fields.get?_cons, if_neg (ne_of_mem_of_not_mem hkey hother).symm]
      exact ih
  | right hother _ ih =>
      rw [Fields.get?_cons, if_neg (ne_of_mem_of_not_mem hkey hother).symm]
      exact ih
  | @both name a b f g hab _ ih =>
      rw [Fields.get?_cons, Fields.get?_cons]
      by_cases heq : name = key
      · rw [if_pos heq, if_pos heq]
        exact .some (heq ▸ hab)
      · rw [if_neg heq, if_neg heq]
        exact ih

theorem FieldsReadAlike.refl : ∀ {f : Fields},
    (∀ field ∈ f, ∀ c ∈ schemasUnder field.1 field.2, R c c) → FieldsReadAlike R f f
  | [], _ => .nil
  | _ :: _, h =>
      .both (.same (h _ (List.mem_cons_self ..)))
        (.refl fun _ hmem => h _ (List.mem_cons_of_mem _ hmem))

/-! ## The other way round -/

theorem HeldAlike.flip {key : String} {a b : Json} (h : HeldAlike R a b key) :
    HeldAlike (fun a b => R b a) b a key := by
  cases h with
  | same h => exact .same h
  | table hkey h => exact .table hkey h.flip
  | schema hkey h => exact .schema hkey h
  | schemas hkey h => exact .schemas hkey h.flip

theorem FieldsReadAlike.flip (h : FieldsReadAlike R f g) :
    FieldsReadAlike (fun a b => R b a) g f := by
  induction h with
  | nil => exact .nil
  | left hkey _ ih => exact .right hkey ih
  | right hkey _ ih => exact .left hkey ih
  | both hab _ ih => exact .both hab.flip ih

theorem BareAlike.flip {a b : Json} (h : BareAlike R a b) : BareAlike (fun a b => R b a) b a := by
  cases h with
  | noObject h => exact .noObject h
  | @object f g href h =>
      refine .object ?_ h.flip
      have hrel := h.get? (by decide : "$ref" ∈ readKeywords)
      rw [href] at hrel
      generalize g.get? "$ref" = b? at hrel
      cases hrel
      rfl

theorem ClosedInwards.flip (h : ClosedInwards R) : ClosedInwards fun a b => R b a where
  kind := h.kind
  bare a b hab := (h.bare b a hab).flip

/-! ## The schemas inside -/

theorem TableAlike.imp_mem {S : Json → Json → Prop} : ∀ {f g : Fields}, TableAlike R f g →
    (∀ a b, a ∈ f.map Prod.snd → R a b → S a b) → TableAlike S f g
  | _, _, .nil, _ => .nil
  | _, _, .cons hab hrest, h =>
      .cons (h _ _ (List.mem_cons_self ..) hab)
        (hrest.imp_mem fun a b hmem => h a b (List.mem_cons_of_mem _ hmem))

theorem HeldAlike.imp_mem {S : Json → Json → Prop} {key : String} {a b : Json}
    (hab : HeldAlike R a b key) (h : ∀ c d, c ∈ schemasUnder key a → R c d → S c d) :
    HeldAlike S a b key := by
  cases hab with
  | same hsame => exact .same fun c hmem => h c c hmem (hsame c hmem)
  | table hkey htable =>
      rw [schemasUnder_table hkey] at h
      exact .table hkey (htable.imp_mem h)
  | schema hkey hschema =>
      rw [schemasUnder_schema hkey] at h
      exact .schema hkey (h _ _ (List.mem_singleton_self _) hschema)
  | schemas hkey hschemas =>
      rw [schemasUnder_schemas hkey] at h
      refine .schemas hkey ?_
      rw [List.forall₂_iff_zip] at hschemas ⊢
      exact ⟨hschemas.1, fun hmem => h _ _ (List.of_mem_zip hmem).1 (hschemas.2 hmem)⟩

theorem FieldsReadAlike.imp_mem {S : Json → Json → Prop} (hfg : FieldsReadAlike R f g)
    (h : ∀ c d, Holds (.object f) c → R c d → S c d) : FieldsReadAlike S f g := by
  induction hfg with
  | nil => exact .nil
  | left hkey _ ih =>
      refine .left hkey (ih fun c d hholds => h c d ?_)
      cases hholds with
      | under hmem hunder => exact .under (List.mem_cons_of_mem _ hmem) hunder
  | right hkey _ ih => exact .right hkey (ih h)
  | both hab _ ih =>
      refine .both (hab.imp_mem fun c d hmem => h c d (.under (List.mem_cons_self ..) hmem))
        (ih fun c d hholds => h c d ?_)
      cases hholds with
      | under hmem hunder => exact .under (List.mem_cons_of_mem _ hmem) hunder

/-- Schemas that are the same to read are so inwards as long as there are no references. -/
theorem closedInwards_sameRead : ClosedInwards fun a b => SameRead a b ∧ ReferenceFree a where
  kind kind := ⟨.refl _, referenceFree_toSchema kind⟩
  bare a b := by
    rintro ⟨h, hfree⟩
    cases h with
    | refl =>
        cases a with
        | object f =>
            refine .object (Fields.get?_eq_none_iff.mpr (hfree f .refl)) (.refl ?_)
            exact fun field hmem c hunder => ⟨.refl c, hfree.of_holds (.under hmem hunder)⟩
        | _ => exact .noObject rfl
    | @object f g h =>
        refine .object (Fields.get?_eq_none_iff.mpr (hfree f .refl)) (h.imp_mem ?_)
        exact fun c d hholds hcd => ⟨hcd, hfree.of_holds hholds⟩

/-! ## Overlays -/

namespace Node

/-- Nodes without references that are the same to read. -/
structure ReadsBare (R : Json → Json → Prop) (node node' : Node) : Prop where
  reads : ReadsAlike readKeywords R node node'
  unreferenced : node.value? "$ref" = none

variable {node node' : Node}

theorem readsBare_of_alike (href : f.get? "$ref" = none) (h : FieldsReadAlike R f g) :
    ReadsBare R ⟨f⟩ ⟨g⟩ :=
  ⟨fun _ hkey => h.get? hkey, href⟩

theorem ReadsBare.bare (h : ReadsBare R node node') : ReadsAlike bareKeywords R node node' :=
  fun key hkey => h.reads key (List.mem_of_mem_filter hkey)

theorem ReadsBare.array? (h : ReadsBare R node node') {key : String}
    (hkey : key ∈ Overlay.keywords) :
    Option.Rel (List.Forall₂ R) (node.array? key) (node'.array? key) := by
  have hrel := h.reads key (List.mem_append_right _ (List.mem_append_right _ hkey))
  unfold Node.array?
  generalize node.value? key = a?, node'.value? key = b? at hrel ⊢
  cases hrel with
  | none => exact .none
  | @some a b hab =>
      cases hab with
      | same h =>
          cases a with
          | array items =>
              rw [schemasUnder_schemas (.inr hkey)] at h
              exact .some (List.forall₂_same.mpr h)
          | _ => exact .none
      | table _ _ => exact .none
      | schema _ _ => exact .none
      | schemas _ h => exact .some h

theorem ReadsBare.base (h : ReadsBare R node node') :
    ReadsBare R ⟨Overlay.base node⟩ ⟨Overlay.base node'⟩ := by
  refine ⟨fun key hkey => ?_, (Overlay.get?_base node "$ref").trans h.unreferenced⟩
  show Option.Rel _ ((Overlay.base node).get? key) ((Overlay.base node').get? key)
  rw [Overlay.get?_base, Overlay.get?_base]
  split
  · exact .none
  · exact h.reads key hkey

end Node

/-- What lies over nodes may differ in keywords that are not read, as they may. -/
theorem FieldsReadAlike.lay {branch branch' : Fields} (hbranch : FieldsReadAlike R branch branch')
    {f g : Fields} (h : Node.ReadsAlike readKeywords R ⟨f⟩ ⟨g⟩) :
    Node.ReadsAlike readKeywords R ⟨Overlay.lay f branch⟩ ⟨Overlay.lay g branch'⟩ := by
  induction hbranch generalizing f g with
  | nil => exact h
  | left hother _ ih =>
      refine ih fun key hkey => ?_
      show Option.Rel _ ((Fields.insert _ _ f).get? key) (g.get? key)
      rw [Fields.get?_insert, if_neg (ne_of_mem_of_not_mem hkey hother).symm]
      exact h key hkey
  | right hother _ ih =>
      refine ih fun key hkey => ?_
      show Option.Rel _ (f.get? key) ((Fields.insert _ _ g).get? key)
      rw [Fields.get?_insert, if_neg (ne_of_mem_of_not_mem hkey hother).symm]
      exact h key hkey
  | @both name a b _ _ hab _ ih =>
      refine ih fun key hkey => ?_
      show Option.Rel _ ((Fields.insert name a f).get? key) ((Fields.insert name b g).get? key)
      rw [Fields.get?_insert, Fields.get?_insert]
      by_cases heq : name = key
      · rw [if_pos heq, if_pos heq]
        exact .some (heq ▸ hab)
      · rw [if_neg heq, if_neg heq]
        exact h key hkey

theorem get?_lay_eq_none {fields branch : Fields} {keyword : String}
    (hfields : fields.get? keyword = none) (hbranch : branch.get? keyword = none) :
    (Overlay.lay fields branch).get? keyword = none := by
  rw [Overlay.get?_lay, hfields, Option.or_none, Fields.get?_eq_none_iff]
  intro hmem
  refine Fields.get?_eq_none_iff.mp hbranch ?_
  unfold Fields.names at hmem ⊢
  rwa [List.map_reverse, List.mem_reverse] at hmem

theorem ClosedInwards.branchRelated (hR : ClosedInwards R) {a b : Json} (hab : R a b) :
    Overlay.BranchRelated (fun f g => Node.ReadsBare R ⟨f⟩ ⟨g⟩) a b := by
  cases hR.bare a b hab with
  | noObject h =>
      unfold Overlay.BranchRelated
      cases a with
      | object f => cases h
      | _ => exact .error rfl
  | object href h =>
      exact .ok fun f g hfg => ⟨h.lay hfg.reads, get?_lay_eq_none hfg.unreferenced href⟩

variable {σ : Type} [Source σ] {node node' : Node}

/-- Overlays of nodes that are the same to read are so again. -/
theorem Node.ReadsBare.resolve {F : SchemaError → SchemaError → Prop} (hR : ClosedInwards R)
    (h : Node.ReadsBare R node node') (hF : ∀ e, F e e) :
    Follows (Option.Rel (Node.ReadsBare R)) F
      (fun _ => (Overlay.resolve node : Draw σ SchemaError (Option Node)))
      (Overlay.resolve node') := by
  refine Overlay.resolve_related (N := fun f g => Node.ReadsBare R ⟨f⟩ ⟨g⟩)
    (fun key hkey => ?_) h.base hF
  have hrel := h.array? hkey
  generalize node.array? key = a?, node'.array? key = b? at hrel
  cases hrel with
  | none => exact .none
  | some hab => exact .some (hab.imp fun a b => hR.branchRelated)

end Specimen
