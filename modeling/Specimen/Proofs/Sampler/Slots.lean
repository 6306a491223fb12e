import Specimen.Proofs.Json.Same
import Specimen.Proofs.Random.Ending
import Specimen.Proofs.Sampler.Plain
import Specimen.Random.Scripted

/-!
# The slots of an array

An array is made slot by slot, each from the schema whose turn it is and where the one
before it has left the source (`array_slots`). Where schemas are given they take turns from
the first to the last and over again; cutting those off that get no turn changes nothing
(`turn_take`).

Items that must differ are thinned out afterwards. Whether an item stays is decided by the
items that were kept so far, which comes to the same as all items before it, since equality
is transitive (`distinctItems_eq`).
-/

namespace Specimen.Sampler

open Draw

/-! ## Turns -/

/-- The schemas that the slots of an array take in turn. Where none are given, one that asks
for nothing but a type stands for them. -/
inductive TakenInTurn (node : Node) : List Json → Prop
  | single {fields : Fields} (h : node.value? "items" = some (.object fields)) :
      TakenInTurn node [.object fields]
  | tuple {schemas : List Json} (h : node.value? "items" = some (.array schemas))
      (hne : schemas ≠ []) : TakenInTurn node schemas
  | absent (kind : Kind) (h : node.value? "items" = none) : TakenInTurn node [kind.toSchema]
  | empty (kind : Kind) (h : node.value? "items" = some (.array [])) :
      TakenInTurn node [kind.toSchema]

/-- How many schemas there are for the items, one of a random type included. -/
def childCount (node : Node) : Nat :=
  match node.value? "items" with
  | some (.array schemas) => schemas.length
  | _ => 1

/-- How many items there must be at least. -/
def leastItems (node : Node) : Nat := (node.count? "minItems").getD 0

/-- How many items there may be at most. Nothing relates the number to the least one. -/
def mostItems (node : Node) : Nat :=
  (node.count? "maxItems").getD (max (childCount node) (leastItems node))

theorem TakenInTurn.ne_nil {node : Node} {schemas : List Json} (h : TakenInTurn node schemas) :
    schemas ≠ [] := by
  cases h with
  | tuple _ hne => exact hne
  | _ => exact List.cons_ne_nil _ _

/-- The turns stay the same if schemas are left out that come after the last slot. -/
theorem turn_take {α : Type} (schemas : List α) {count i : Nat} (hi : i < count) :
    (schemas.take count)[i % (schemas.take count).length]? = schemas[i % schemas.length]? := by
  rcases Nat.le_total count schemas.length with hle | hle
  · rw [List.length_take_of_le hle, Nat.mod_eq_of_lt hi, Nat.mod_eq_of_lt (hi.trans_le hle),
      List.getElem?_take_of_lt hi]
  · rw [List.take_of_length_le hle]

theorem slotSchemas_getElem?_turn {schemas : List Json} (hne : schemas ≠ []) {count i : Nat}
    (hi : i < count) : (slotSchemas schemas count)[i]? = schemas[i % schemas.length]? := by
  have hlt : i % schemas.length < schemas.length := Nat.mod_lt i (List.length_pos_iff.mpr hne)
  rw [slotSchemas_eq_map hne, List.getElem?_map, List.getElem?_range hi, Option.map_some,
    List.getElem?_eq_getElem hlt, Option.getD_some]

/-! ## Items that stay -/

/-- The items that equal none of those before them. -/
def firstItems (items : List Json) : List Json :=
  (items.zipIdx.filter fun item => !(items.take item.2).any (·.same item.1)).map (·.1)

/-- The same where the items come after some others. -/
def firstAfter (before items : List Json) : List Json :=
  ((items.zipIdx before.length).filter fun item =>
    !((before ++ items).take item.2).any (·.same item.1)).map (·.1)

theorem firstAfter_cons (before : List Json) (item : Json) (rest : List Json) :
    firstAfter before (item :: rest) = if before.any (·.same item)
      then firstAfter (before ++ [item]) rest else item :: firstAfter (before ++ [item]) rest := by
  unfold firstAfter
  have hbefore : (before ++ item :: rest).take before.length = before := List.take_left
  rw [List.zipIdx_cons, List.filter_cons]
  simp only [hbefore, List.length_append, List.length_singleton, List.append_assoc,
    List.singleton_append]
  cases before.any (·.same item) <;> simp

/-- The kept items tell as much about equality as all items before. -/
theorem distinctItems_eq_append : ∀ (items before kept : List Json),
    (∀ item, kept.any (·.same item) = before.any (·.same item)) →
      distinctItems kept items = kept.reverse ++ firstAfter before items
  | [], before, kept, _ => by simp [distinctItems, firstAfter]
  | item :: rest, before, kept, hkept => by
      rw [firstAfter_cons, distinctItems, hkept]
      split
      · next hrepeated =>
          refine distinctItems_eq_append rest _ _ fun other => ?_
          obtain ⟨first, hfirst, hsame⟩ := List.any_eq_true.mp (hkept item ▸ hrepeated)
          have hother (h : item.same other = true) : kept.any (·.same other) = true :=
            List.any_eq_true.mpr ⟨first, hfirst, Json.same_trans hsame h⟩
          rw [List.any_append, ← hkept]
          cases hitem : item.same other with
          | true => simp [hother hitem]
          | false => simp [hitem]
      · rw [distinctItems_eq_append rest (before ++ [item]) (item :: kept) fun other => ?_]
        · simp
        · rw [List.any_append, ← hkept, List.any_cons, Bool.or_comm]
          simp

theorem distinctItems_eq (items : List Json) : distinctItems [] items = firstItems items :=
  distinctItems_eq_append items [] [] fun _ => rfl

theorem firstItems_sublist (items : List Json) : (firstItems items).Sublist items := by
  have h := (List.filter_sublist (p := fun item : Json × Nat =>
    !(items.take item.2).any (·.same item.1)) (l := items.zipIdx)).map (·.1)
  rwa [List.zipIdx_map_fst] at h

/-- An item that stays equals none before it. -/
theorem firstAfter_pairwise : ∀ items before : List Json,
    (firstAfter before items).Pairwise (fun u v => u.same v = false)
      ∧ ∀ v ∈ firstAfter before items, ∀ u ∈ before, u.same v = false
  | [], before => ⟨.nil, fun v hv => by cases hv⟩
  | item :: rest, before => by
      obtain ⟨hpairwise, hbefore⟩ := firstAfter_pairwise rest (before ++ [item])
      have hrest : ∀ v ∈ firstAfter (before ++ [item]) rest, ∀ u ∈ before, u.same v = false :=
        fun v hv u hu => hbefore v hv u (List.mem_append_left _ hu)
      rw [firstAfter_cons]
      split
      · exact ⟨hpairwise, hrest⟩
      · next hnew =>
          refine ⟨List.pairwise_cons.mpr ⟨fun v hv => ?_, hpairwise⟩, fun v hv u hu => ?_⟩
          · exact hbefore v hv item (List.mem_append_right _ (List.mem_singleton_self item))
          · rcases List.mem_cons.mp hv with rfl | hv
            · by_contra hsame
              exact hnew (List.any_eq_true.mpr ⟨u, hu, Bool.eq_true_of_not_eq_false hsame⟩)
            · exact hrest v hv u hu

/-- Every item stays or equals one that does, or one that comes before all of them. -/
theorem firstAfter_covers : ∀ (items before : List Json), ∀ x ∈ items,
    (∃ u ∈ before, u.same x = true) ∨ ∃ u ∈ firstAfter before items, u = x ∨ u.same x = true
  | item :: rest, before, x, hx => by
      rw [firstAfter_cons]
      by_cases hrepeated : before.any (·.same item) = true
      · rw [if_pos hrepeated]
        obtain ⟨first, hfirst, hsame⟩ := List.any_eq_true.mp hrepeated
        rcases List.mem_cons.mp hx with rfl | hx
        · exact .inl ⟨first, hfirst, hsame⟩
        rcases firstAfter_covers rest (before ++ [item]) x hx with ⟨u, hu, hux⟩ | hlater
        · rcases List.mem_append.mp hu with hu | hu
          · exact .inl ⟨u, hu, hux⟩
          · obtain rfl := List.mem_singleton.mp hu
            exact .inl ⟨first, hfirst, Json.same_trans hsame hux⟩
        · exact .inr hlater
      · rw [if_neg hrepeated]
        rcases List.mem_cons.mp hx with rfl | hx
        · exact .inr ⟨x, List.mem_cons_self, .inl rfl⟩
        rcases firstAfter_covers rest (before ++ [item]) x hx with ⟨u, hu, hux⟩ | ⟨u, hu, hux⟩
        · rcases List.mem_append.mp hu with hu | hu
          · exact .inl ⟨u, hu, hux⟩
          · exact .inr ⟨u, List.mem_singleton.mp hu ▸ List.mem_cons_self, .inr hux⟩
        · exact .inr ⟨u, List.mem_cons_of_mem _ hu, hux⟩

/-- Some items thinned out: those that stay keep their order, no two are equal, and each of
the items stays or equals one that does. -/
structure IsThinned (items thinned : List Json) : Prop where
  sublist : thinned.Sublist items
  differ : thinned.Pairwise fun u v => u.same v = false ∧ v.same u = false
  covers : ∀ x ∈ items, ∃ u ∈ thinned, u = x ∨ u.same x = true

theorem isThinned_firstItems (items : List Json) : IsThinned items (firstItems items) where
  sublist := firstItems_sublist items
  differ := (firstAfter_pairwise items []).1.imp fun h => ⟨h, Json.same_comm .. ▸ h⟩
  covers x hx := (firstAfter_covers items [] x hx).resolve_left fun ⟨_, hu, _⟩ =>
    List.not_mem_nil hu

/-! ## Arrays -/

variable {σ : Type} [Source σ] {node : Node} {limit : Nat} {src rest : σ}

theorem anySchema_run {schema : Json} (h : anySchema.run limit src = (.ok schema, rest)) :
    (∃ kind : Kind, schema = kind.toSchema) ∧ Leads src rest := by
  obtain ⟨kind?, s, hdrawn, hpure⟩ := run_bind_ok.mp h
  cases hpure
  have hends : Ends Kind.all.length (element Kind.all : Draw σ SchemaError (Option Kind)) :=
    element_ends (Nat.le_refl _)
  have hleads := hends.leads limit src
  rw [hdrawn] at hleads
  exact ⟨⟨_, rfl⟩, hleads⟩

theorem itemSchemas_run {given : List Json}
    (h : (itemSchemas node).run limit src = (.ok given, rest)) :
    (TakenInTurn node given ∨ node.value? "items" = some (.array []) ∧ given = [])
      ∧ given.length = childCount node ∧ Leads src rest := by
  unfold itemSchemas at h
  split at h
  · next hitems =>
      obtain ⟨schema, s, hschema, hpure⟩ := run_bind_ok.mp h
      cases hpure
      obtain ⟨⟨kind, rfl⟩, hleads⟩ := anySchema_run hschema
      exact ⟨.inl (.absent kind hitems), by rw [childCount, hitems]; rfl, hleads⟩
  · next fields hitems =>
      cases h
      exact ⟨.inl (.single hitems), by rw [childCount, hitems]; rfl, .refl⟩
  · next schemas hitems =>
      cases h
      refine ⟨?_, by rw [childCount, hitems], .refl⟩
      cases given with
      | nil => exact .inr ⟨hitems, rfl⟩
      | cons first others => exact .inl (.tuple hitems (List.cons_ne_nil _ _))
  · cases h

/-- The items of an array as they are drawn from schemas in turn. -/
structure FillsSlots (descend : Descent σ) (node : Node) (scope : Json) (limit : Nat)
    (src rest : σ) (schemas items : List Json) : Prop where
  turns : TakenInTurn node schemas
  least_le : min (leastItems node) (mostItems node) ≤ items.length
  le_most : items.length ≤ max (leastItems node) (mostItems node)
  drawn : ∃ states : Nat → σ, Leads src (states 0) ∧ states items.length = rest
    ∧ ∀ i item, items[i]? = some item → ∃ schema, schemas[i % schemas.length]? = some schema
      ∧ (descend schema scope).run limit (states i) = (.ok item, states (i + 1))

theorem FillsSlots.of_sequence {descend : Descent σ} {scope : Json} {schemas items : List Json}
    {count : Nat} {s : σ} (hturn : TakenInTurn node schemas)
    (hcount : min (leastItems node) (mostItems node) ≤ count
      ∧ count ≤ max (leastItems node) (mostItems node)) (hleads : Leads src s)
    (h : (Draw.sequence ((slotSchemas schemas count).map fun schema =>
      descend schema scope)).run limit s = (.ok items, rest)) :
    FillsSlots descend node scope limit src rest schemas items := by
  obtain ⟨hlength, states, hstart, hend, hstates⟩ := run_sequence_map h
  rw [length_slotSchemas fun _ => hturn.ne_nil] at hlength
  refine ⟨hturn, hlength ▸ hcount.1, hlength ▸ hcount.2, states, hstart ▸ hleads, hend, ?_⟩
  intro i item hitem
  have hi : i < count := hlength ▸ (List.getElem?_eq_some_iff.mp hitem).1
  have hlt : i % schemas.length < schemas.length :=
    Nat.mod_lt i (List.length_pos_iff.mpr hturn.ne_nil)
  have hschema := List.getElem?_eq_getElem hlt
  refine ⟨_, hschema, hstates i _ item ?_ hitem⟩
  rw [slotSchemas_getElem?_turn hturn.ne_nil hi, hschema]

/-- Before the first slot is filled it is settled how many there are and which schemas they
take. One of a random type stands for an empty list of schemas if there are any slots. -/
theorem array_run {descend : Descent σ} {scope v : Json}
    (h : (array descend node scope).run limit src = (.ok v, rest)) :
    ∃ schemas items, FillsSlots descend node scope limit src rest schemas items
      ∧ v = .array (if node.flag "uniqueItems" then distinctItems [] items else items) := by
  obtain ⟨given, s₁, hgiven, h⟩ := run_bind_ok.mp h
  obtain ⟨hturn, hlength, hleads₁⟩ := itemSchemas_run hgiven
  have hcounts : node.itemCounts given.length = (leastItems node, mostItems node) := by
    rw [hlength]
    rfl
  rw [hcounts] at h
  obtain ⟨count, s₂, hcount, h⟩ := run_bind_ok.mp h
  have hrange := (countBetween_ensures (E := fun _ => True) _ _).value hcount
  have hleads₂ : Leads s₁ s₂ := by
    have hleads := (countBetween_ends (σ := σ) (ε := SchemaError) (a := leastItems node)
      (b := mostItems node) (Nat.le_refl _)).leads limit s₁
    rwa [hcount] at hleads
  -- both ways to come by the schemas end here
  have hfill {schemas : List Json} {s : σ} (hturn : TakenInTurn node schemas) (hlater : Leads s₂ s)
      (h : (do
          let items ← Draw.sequence ((slotSchemas schemas count).map fun a => descend a scope)
          return .array (if node.flag "uniqueItems" then distinctItems [] items else items)
            : Draw σ SchemaError Json).run limit s = (.ok v, rest)) :
      ∃ schemas items, FillsSlots descend node scope limit src rest schemas items
        ∧ v = .array (if node.flag "uniqueItems" then distinctItems [] items else items) := by
    obtain ⟨items, s', hitems, hpure⟩ := run_bind_ok.mp h
    cases hpure
    exact ⟨schemas, items, .of_sequence hturn hrange ((hleads₁.trans hleads₂).trans hlater) hitems,
      rfl⟩
  dsimp only at h
  split at h
  · next hempty =>
      obtain ⟨schema, s₃, hschema, h⟩ := run_bind_ok.mp h
      obtain ⟨⟨kind, rfl⟩, hlater⟩ := anySchema_run hschema
      have hnil : given = [] := List.isEmpty_iff.mp hempty.1
      exact hfill (.empty kind (hturn.resolve_left fun h => h.ne_nil hnil).1) hlater h
  · next hfull =>
      rcases hturn with hturn | ⟨hitems, rfl⟩
      · exact hfill hturn .refl h
      · have hnone : count = 0 := by simpa using hfull
        subst hnone
        exact hfill (.empty .null hitems) .refl h

/-- An array that is drawn has between the least and the most items, each made from the schema
whose turn it is. Only where items must differ are those left out that equal an earlier one. -/
theorem array_slots {descend : Descent σ} {scope v : Json}
    (h : (array descend node scope).run limit src = (.ok v, rest)) :
    ∃ schemas items, FillsSlots descend node scope limit src rest schemas items
      ∧ (∀ i < items.length, 0 < (schemas.take items.length).length
        ∧ (schemas.take items.length)[i % (schemas.take items.length).length]?
          = schemas[i % schemas.length]?)
      ∧ (node.flag "uniqueItems" = false → v = .array items)
      ∧ (node.flag "uniqueItems" = true →
        v = .array (firstItems items) ∧ IsThinned items (firstItems items)) := by
  obtain ⟨schemas, items, hfills, rfl⟩ := array_run h
  refine ⟨schemas, items, hfills, fun i hi => ⟨?_, turn_take schemas hi⟩, fun hflag => ?_,
    fun hflag => ⟨?_, isThinned_firstItems items⟩⟩
  · have hpos : 0 < schemas.length := List.length_pos_iff.mpr hfills.turns.ne_nil
    rw [List.length_take]
    exact Nat.lt_min.mpr ⟨Nat.zero_lt_of_lt hi, hpos⟩
  · rw [hflag]
    rfl
  · rw [hflag, distinctItems_eq]
    rfl

/-- Three slots for two schemas, each with one value, and all items must differ. -/
def threeSlots : Node :=
  ⟨[("items", .array [.object [("const", .bool true)], .object [("const", .bool false)]]),
    ("maxItems", .number (.int 3)), ("minItems", .number (.int 3)), ("uniqueItems", .bool true)]⟩

theorem array_slots_threeSlots :
    ∃ rest : Scripted,
      (array (value ⟨{}, ⟨"."⟩, DocumentTable.empty.toLoader⟩ 1) threeSlots .null).run 1 ⟨[0], 0⟩
        = (.ok (.array [.bool true, .bool false]), rest)
      ∧ ∃ schemas items, items.length = 3
        ∧ FillsSlots (value ⟨{}, ⟨"."⟩, DocumentTable.empty.toLoader⟩ 1) threeSlots .null 1
          ⟨[0], 0⟩ rest schemas items
        ∧ IsThinned items [.bool true, .bool false] := by
  have hrun : (array (value ⟨{}, ⟨"."⟩, DocumentTable.empty.toLoader⟩ 1) threeSlots .null).run 1
      (⟨[0], 0⟩ : Scripted) = (.ok (.array [.bool true, .bool false]), ⟨[], 0⟩) := rfl
  refine ⟨_, hrun, ?_⟩
  obtain ⟨schemas, items, hfills, -, -, hthinned⟩ := array_slots hrun
  obtain ⟨hitems, hthinned⟩ := hthinned rfl
  rw [← Json.array.inj hitems] at hthinned
  exact ⟨schemas, items, Nat.le_antisymm hfills.le_most hfills.least_le, hfills, hthinned⟩

end Specimen.Sampler
