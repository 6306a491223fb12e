import Specimen.Proofs.Random.Ending
import Specimen.Proofs.Schema.Selection

/-!
# Declared names come first

Names are made up only for want of declared ones. Where the required names and the keys of
`properties` are as many as must be there (`HasEnough`), the number of optional names that
is drawn brings the required ones up to the least number, so nothing is left to be filled
and a selection cannot fail (`select_declaredOnly`).

What decides it is the lower end of the range that the number is drawn from. It is what the
required names leave wanting or, where there is less room than that, the room; the latter
is never the case here (`wanting_le`).
-/

namespace Specimen.PropertyNames

open Draw

/-- The keys of `properties`. -/
def declared (node : Node) : List String := Fields.names ((node.object? "properties").getD [])

/-- How many properties there must be at least. -/
def leastCount (node : Node) : Nat := (node.count? "minProperties").getD 0

/-- There are enough names to meet the least number without making any up. No name is required
twice, and no key comes twice, as in any object. -/
structure HasEnough (node : Node) : Prop where
  nodup_required : (required node).Nodup
  nodup_declared : (declared node).Nodup
  ordered : ∀ most, node.count? "maxProperties" = some most → leastCount node ≤ most
  enough : leastCount node ≤ (required node ++ declared node).eraseDups.length

variable {node : Node}

/-! ## Counting -/

theorem eraseDups_of_nodup : ∀ {names : List String}, names.Nodup → names.eraseDups = names
  | [], _ => rfl
  | name :: rest, h => by
      obtain ⟨hname, hrest⟩ := List.nodup_cons.mp h
      have hother : rest.filter (fun other => !other == name) = rest := by
        refine List.filter_eq_self.mpr fun other hmem => ?_
        have hne : other ≠ name := fun heq => hname (heq ▸ hmem)
        simpa using hne
      rw [List.eraseDups_cons, hother, eraseDups_of_nodup hrest]

theorem HasEnough.nodup_optional (h : HasEnough node) : (optional node).Nodup :=
  h.nodup_declared.filter _

/-- The different names are the required ones and the optional ones. -/
theorem HasEnough.least_le (h : HasEnough node) :
    leastCount node ≤ (required node).length + (optional node).length := by
  have hrest : (declared node).removeAll (required node) = optional node :=
    List.filter_congr fun _ _ => rfl
  have hle := h.enough
  rwa [List.eraseDups_append, hrest, eraseDups_of_nodup h.nodup_required,
    eraseDups_of_nodup h.nodup_optional, List.length_append] at hle

/-- What the required names leave wanting can be picked. -/
theorem HasEnough.wanting_le (h : HasEnough node) :
    leastCount node - (required node).length ≤ (optionalCounts node).2 := by
  have hthere : leastCount node - (required node).length ≤ (optional node).length :=
    Nat.sub_le_iff_le_add'.mpr h.least_le
  refine Nat.le_min.mpr ⟨hthere, ?_⟩
  cases hmost : node.count? "maxProperties" with
  | none => exact hthere
  | some most => exact Nat.sub_le_sub_right (h.ordered most hmost) _

/-- Any number of optional names that may be drawn is enough. -/
theorem HasEnough.le_required_add (h : HasEnough node) {count : Nat}
    (hcount : (optionalCounts node).1 ≤ count) :
    leastCount node ≤ (required node).length + count := by
  have hleast : (optionalCounts node).1 = leastCount node - (required node).length :=
    Nat.min_eq_left h.wanting_le
  omega

/-! ## Selections without made-up names -/

variable {σ : Type} [Source σ] {E : SchemaError → Prop}

theorem fill_of_enough {names : List String} (h : leastCount node ≤ names.length) :
    (fill node names : Draw σ SchemaError (List String)) = pure names := by
  unfold fill
  exact if_pos (Nat.sub_eq_zero_of_le h)

/-- The closure of the required names and some optional ones, which are enough. -/
structure IsDeclaredOnly (node : Node) (names : List String) : Prop where
  parts : ∃ chosen, chosen.Sublist (optional node) ∧ names = close node (required node ++ chosen)
  least_le : leastCount node ≤ names.length

theorem HasEnough.isDeclaredOnly (h : HasEnough node) {picked : List String}
    (hpicked : picked.Sublist (optional node)) (hcount : (optionalCounts node).1 ≤ picked.length) :
    IsDeclaredOnly node (close node (required node ++ picked)) := by
  refine ⟨⟨picked, hpicked, rfl⟩, ?_⟩
  obtain ⟨brought, heq, -⟩ := close_eq_append node (required node ++ picked)
  have hle := h.le_required_add hcount
  rw [heq, List.length_append, List.length_append]
  omega

/-- What is left to be done after names have been picked: nothing. -/
theorem HasEnough.fill_eq (h : HasEnough node) {picked : List String}
    (hpicked : picked.Sublist (optional node)) (hcount : (optionalCounts node).1 ≤ picked.length) :
    (fill node (close node (addAll [] (required node ++ picked)))
        : Draw σ SchemaError (List String)) = pure (close node (required node ++ picked)) := by
  rw [addAll_required hpicked, given, eraseDups_of_nodup h.nodup_required,
    eraseDups_of_nodup (h.nodup_optional.sublist hpicked)]
  exact fill_of_enough (h.isDeclaredOnly hpicked hcount).least_le

/-- As many names as were drawn are picked, as there is room for them. -/
theorem picked_ensures (node : Node) {count : Nat}
    (hcount : min (optionalCounts node).1 (optionalCounts node).2 ≤ count
      ∧ count ≤ max (optionalCounts node).1 (optionalCounts node).2) :
    Ensures (elements (optional node) count : Draw σ SchemaError (List String))
      (fun picked => picked.Sublist (optional node)
        ∧ (optionalCounts node).1 ≤ picked.length) E := by
  have hrange : (optionalCounts node).1 ≤ (optionalCounts node).2 := Nat.min_le_right ..
  have hmost : (optionalCounts node).2 ≤ (optional node).length := Nat.min_le_left ..
  refine (elements_ensures (optional node) count).imp_value fun picked ⟨hsublist, hlength⟩ => ?_
  exact ⟨hsublist, by omega⟩

theorem HasEnough.select_ensures (h : HasEnough node) :
    Ensures (select node : Draw σ SchemaError (List String)) (IsDeclaredOnly node) E := by
  refine (countBetween_ensures _ _).bind fun count hcount => ?_
  refine (picked_ensures node hcount).bind fun picked ⟨hpicked, hle⟩ => ?_
  rw [h.fill_eq hpicked hle]
  exact ensures_pure (h.isDeclaredOnly hpicked hle)

theorem HasEnough.select_ends (h : HasEnough node) :
    Ends ((optional node).length + 1) (select node : Draw σ SchemaError (List String)) := by
  have hmost : (optionalCounts node).2 ≤ (optional node).length := Nat.min_le_left ..
  have hrange : (optionalCounts node).1 ≤ (optionalCounts node).2 := Nat.min_le_right ..
  refine (countBetween_ends (by omega)).bind (countBetween_ensures (E := fun _ => True) _ _)
    fun count hcount => ?_
  refine (elements_ends (Nat.le_succ _) count).bind
    (picked_ensures (E := fun _ => True) node hcount) fun picked ⟨hpicked, hle⟩ => ?_
  rw [h.fill_eq hpicked hle]
  exact ends_pure _

/-- Where they come from: no name of such a selection is made up. -/
theorem IsDeclaredOnly.origin {names : List String} (h : IsDeclaredOnly node names) {name : String}
    (hname : name ∈ names) : ∃ origin ∈ required node ++ declared node,
      Relation.ReflTransGen (Brings (dependencyTables node)) origin name := by
  obtain ⟨chosen, hsublist, rfl⟩ := h.parts
  obtain ⟨origin, horigin, hreach⟩ := (mem_close_iff node _).mp hname
  refine ⟨origin, ?_, hreach⟩
  rcases List.mem_append.mp horigin with hrequired | hchosen
  · exact List.mem_append_left _ hrequired
  · exact List.mem_append_right _ (List.mem_filter.mp (hsublist.subset hchosen)).1

/-- An object with enough names to choose from gets a selection from any source that does not
stall, however open or closed it is. The selection is the required names, some of the
optional ones and what these bring along, and these are enough. -/
theorem select_declaredOnly (h : HasEnough node) (limit : Nat) (src : σ) :
    (∃ names rest, (select node).run limit src = (.ok names, rest)
      ∧ (∃ chosen, chosen.Sublist (optional node) ∧ names = close node (required node ++ chosen))
      ∧ (∀ name ∈ names, ∃ origin ∈ required node ++ declared node,
          Relation.ReflTransGen (Brings (dependencyTables node)) origin name)
      ∧ (node.count? "minProperties").getD 0 ≤ names.length)
    ∨ Stalls ((optional node).length + 1) limit src
      ∧ ∃ rest, (select node).run limit src = (.error .endless, rest) := by
  refine (h.select_ensures.run_cases h.select_ends limit src).imp_left ?_
  rintro ⟨names, rest, hrun, hnames⟩
  exact ⟨names, rest, hrun, hnames.parts, fun name hname => hnames.origin hname, hnames.least_le⟩

/-- A closed object whose required name brings another along, and which needs its other two
keys as well. -/
def threeKeys : Node :=
  ⟨[("additionalProperties", .bool false), ("dependencies", .object [("a", .array [.string "x"])]),
    ("maxProperties", .number (.int 3)), ("minProperties", .number (.int 3)),
    ("properties", .object [("a", .null), ("b", .null), ("c", .null)]),
    ("required", .array [.string "a"])]⟩

theorem select_declaredOnly_threeKeys :
    HasEnough threeKeys
      ∧ ∃ names rest, (select threeKeys).run 3 (⟨[], 0⟩ : Scripted) = (.ok names, rest)
        ∧ (∃ chosen, chosen.Sublist (optional threeKeys)
          ∧ names = close threeKeys (required threeKeys ++ chosen))
        ∧ (∀ name ∈ names, ∃ origin ∈ required threeKeys ++ declared threeKeys,
            Relation.ReflTransGen (Brings (dependencyTables threeKeys)) origin name)
        ∧ 3 ≤ names.length := by
  have henough : HasEnough threeKeys := by
    refine ⟨by decide +kernel, by decide +kernel, ?_, by decide +kernel⟩
    intro most hmost
    cases Option.some.inj hmost
    exact Nat.le_refl 3
  refine ⟨henough, ?_⟩
  rcases select_declaredOnly henough 3 (⟨[], 0⟩ : Scripted) with hok | ⟨-, rest, hendless⟩
  · exact hok
  · have hrun : ((select threeKeys).run 3 (⟨[], 0⟩ : Scripted)).1.toOption
        = some ["a", "b", "c", "x"] := by decide +kernel
    rw [hendless] at hrun
    cases hrun

end Specimen.PropertyNames
