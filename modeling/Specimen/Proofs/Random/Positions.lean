import Specimen.Proofs.Random.Ending
import Specimen.Random.Scripted

/-!
# Items that are picked stand in order

Whichever way the positions of a pick are found, the list is walked once from its front and an
item is kept where its position is among them. So the items that are kept stand at growing
positions, one at each (`keepAt_stands`), and as the positions differ from one another and are
positions of the list, there are as many items as were asked for.

A pick ends with such items unless its source stalls, and from an empty list a subset is taken
without any words (`picks_inOrder`).
-/

namespace Specimen.Draw

/-- What is picked stands at growing positions of a list, one item at each. -/
structure IsPickedAt {α : Type} (items : List α) (positions : List Nat) (picked : List α) :
    Prop where
  increasing : positions.Pairwise (· < ·)
  lt : ∀ i ∈ positions, i < items.length
  stands : List.Forall₂ (fun i item => items[i]? = some item) positions picked

variable {α : Type}

/-! ## Kept items -/

/-- The positions among those of `count` items, counted from `start`, that are chosen. -/
def chosenFrom (chosen : List Nat) (start count : Nat) : List Nat :=
  (List.range' start count).filter (· ∈ chosen)

/-- The induction goes along the items that are left, with those before them put in front. -/
theorem keepAt_stands (chosen : List Nat) : ∀ (before items : List α),
    List.Forall₂ (fun i item => (before ++ items)[i]? = some item)
      (chosenFrom chosen before.length items.length) (keepAt chosen before.length items)
  | before, [] => .nil
  | before, item :: rest => by
      have ih := keepAt_stands chosen (before ++ [item]) rest
      rw [List.append_assoc, List.singleton_append, List.length_append, List.length_singleton] at ih
      unfold chosenFrom keepAt
      rw [List.length_cons, List.range'_succ]
      by_cases h : before.length ∈ chosen
      · rw [if_pos h, List.filter_cons_of_pos (by simpa using h)]
        refine .cons ?_ ih
        rw [List.getElem?_append_right (Nat.le_refl _), Nat.sub_self]
        rfl
      · rw [if_neg h, List.filter_cons_of_neg (by simpa using h)]
        exact ih

/-- What is kept at chosen positions stands there. -/
theorem isPickedAt_keepAt (chosen : List Nat) (items : List α) :
    IsPickedAt items (chosenFrom chosen 0 items.length) (keepAt chosen 0 items) where
  increasing := (List.pairwise_lt_range' 1).filter _
  lt i hi := by
    have hrange := (List.mem_filter.mp hi).1
    simpa using (List.mem_range'_1.mp hrange).2
  stands := keepAt_stands chosen [] items

theorem IsPickedAt.length_eq {items picked : List α} {positions : List Nat}
    (h : IsPickedAt items positions picked) : positions.length = picked.length :=
  h.stands.length_eq

variable {σ ε : Type} [Source σ] {E : ε → Prop}

/-! ## Several items -/

/-- As many items as are asked for, or all there are. -/
theorem elements_isPickedAt (items : List α) (count : Nat) :
    Ensures (elements items count : Draw σ ε (List α))
      (fun picked => ∃ positions, IsPickedAt items positions picked
        ∧ positions.length = min count items.length) E := by
  refine (distinct_ensures (Nat.min_le_right ..)).bind fun chosen h => ensures_pure ?_
  have hpicked := isPickedAt_keepAt chosen items
  refine ⟨_, hpicked, ?_⟩
  rw [hpicked.length_eq, length_keepAt h.nodup h.lt, h.length]

/-- At least one item, if there is one. -/
theorem subset_isPickedAt {items : List α} (hitems : items ≠ []) :
    Ensures (subset items : Draw σ ε (List α))
      (fun picked => ∃ positions, IsPickedAt items positions picked ∧ positions ≠ []) E := by
  obtain ⟨item, rest, rfl⟩ := List.exists_cons_of_ne_nil hitems
  refine (below64_ensures (Nat.succ_pos _)).bind fun more _ => ?_
  refine (elements_isPickedAt _ _).imp_value fun picked ⟨positions, hpicked, hlength⟩ => ?_
  refine ⟨positions, hpicked, ?_⟩
  rintro rfl
  rw [List.length_nil, List.length_cons] at hlength
  omega

/-- Items are picked from growing positions, as many as asked for or as there are, by every
source that does not stall; a subset of a list that is not empty is not empty, and from an
empty list it takes nothing. -/
theorem picks_inOrder (items : List α) (limit : Nat) (src : σ) :
    (∀ count,
      (∃ positions picked rest,
        (elements items count : Draw σ ε (List α)).run limit src = (.ok picked, rest)
          ∧ IsPickedAt items positions picked ∧ positions.length = min count items.length)
      ∨ Stalls items.length limit src ∧ ∃ rest,
        (elements items count : Draw σ ε (List α)).run limit src = (.error .endless, rest))
    ∧ (items ≠ [] ∧
        ((∃ positions picked rest,
          (subset items : Draw σ ε (List α)).run limit src = (.ok picked, rest)
            ∧ IsPickedAt items positions picked ∧ positions ≠ [])
        ∨ Stalls items.length limit src ∧ ∃ rest,
          (subset items : Draw σ ε (List α)).run limit src = (.error .endless, rest))
      ∨ items = [] ∧ (subset items : Draw σ ε (List α)).run limit src = (.ok [], src)) := by
  constructor
  · intro count
    rcases (elements_isPickedAt items count).run_cases (elements_ends (Nat.le_refl _) count)
      limit src with ⟨picked, rest, hrun, positions, hpicked, hlength⟩ | hstalls
    · exact .inl ⟨positions, picked, rest, hrun, hpicked, hlength⟩
    · exact .inr hstalls
  · by_cases hitems : items = []
    · subst hitems
      exact .inr ⟨rfl, rfl⟩
    · refine .inl ⟨hitems, ?_⟩
      rcases (subset_isPickedAt hitems).run_cases (subset_ends (Nat.le_refl _)) limit src with
        ⟨picked, rest, hrun, positions, hpicked, hsome⟩ | hstalls
      · exact .inl ⟨positions, picked, rest, hrun, hpicked, hsome⟩
      · exact .inr hstalls

/-- Thirteen of twenty-four items are enough for the positions to be shuffled. -/
theorem picks_inOrder_twentyFour :
    Selection.of 24 13 = .swapping
      ∧ (∃ positions picked rest,
        (elements (List.range 24) 13 : Draw Scripted Empty _).run 9 ⟨[], 5⟩ = (.ok picked, rest)
        ∧ IsPickedAt (List.range 24) positions picked ∧ positions.length = 13)
      ∧ List.range 24 ≠ []
      ∧ ∃ positions picked rest,
        (subset (List.range 24) : Draw Scripted Empty _).run 9 ⟨[], 5⟩ = (.ok picked, rest)
        ∧ IsPickedAt (List.range 24) positions picked ∧ positions ≠ [] := by
  have helements : ((elements (List.range 24) 13 : Draw Scripted Empty _).run 9
      ⟨[], 5⟩).1.toOption.isSome = true := by decide +kernel
  have hsubset : ((subset (List.range 24) : Draw Scripted Empty _).run 9
      ⟨[], 5⟩).1.toOption.isSome = true := by decide +kernel
  obtain ⟨hall, hsome⟩ := picks_inOrder (ε := Empty) (List.range 24) 9 (⟨[], 5⟩ : Scripted)
  refine ⟨by decide, ?_, by decide, ?_⟩
  · rcases hall 13 with hpicked | ⟨-, rest, hendless⟩
    · exact hpicked
    · rw [hendless] at helements
      cases helements
  · rcases hsome with ⟨-, hpicked | ⟨-, rest, hendless⟩⟩ | ⟨hnil, -⟩
    · exact hpicked
    · rw [hendless] at hsubset
      cases hsubset
    · cases hnil

end Specimen.Draw
