import Mathlib.Data.List.Nodup
import Mathlib.Data.List.Range
import Specimen.Proofs.Random.Uniform
import Specimen.Random.Pick

/-!
# Picks without replacement

Whichever way distinct positions are found, they are as many as asked for,
different from one another and positions of the list (`distinct_ensures`):

- growing: all positions taken so far lie below the present top, so the top
  itself is free whenever the drawn one is not;
- swapping: the places stay a permutation of all positions, of which the first
  few are taken;
- retrying: a position is added only once it is found to be new.

What `keepAt` keeps is then a sublist of that many items, because the kept
positions are just the chosen ones (`length_keepAt`).
-/

namespace Specimen.Draw

/-! ## Kept items -/

theorem keepAt_sublist {α : Type} (chosen : List Nat) :
    ∀ (start : Nat) (items : List α), List.Sublist (keepAt chosen start items) items
  | _, [] => .slnil
  | start, item :: rest => by
      unfold keepAt
      split
      · exact (keepAt_sublist chosen (start + 1) rest).cons_cons item
      · exact (keepAt_sublist chosen (start + 1) rest).cons item

theorem length_keepAt_eq_filter {α : Type} (chosen : List Nat) :
    ∀ (start : Nat) (items : List α),
      (keepAt chosen start items).length
        = ((List.range' start items.length).filter (· ∈ chosen)).length
  | _, [] => rfl
  | start, item :: rest => by
      rw [List.length_cons, List.range'_succ]
      by_cases h : start ∈ chosen
      · simp [keepAt, h, length_keepAt_eq_filter chosen (start + 1) rest]
      · simp [keepAt, h, length_keepAt_eq_filter chosen (start + 1) rest]

/-- As many items are kept as positions are chosen, if these are different
positions of the list. -/
theorem length_keepAt {α : Type} {chosen : List Nat} {items : List α} (hnd : chosen.Nodup)
    (hlt : ∀ i ∈ chosen, i < items.length) :
    (keepAt chosen 0 items).length = chosen.length := by
  rw [length_keepAt_eq_filter, ← List.range_eq_range']
  refine List.Perm.length_eq ?_
  refine (List.perm_ext_iff_of_nodup (List.nodup_range.filter _) hnd).mpr fun i => ?_
  simp only [List.mem_filter, List.mem_range, decide_eq_true_eq]
  exact ⟨fun h => h.2, fun h => ⟨hlt i h, h⟩⟩

variable {σ ε : Type} [Source σ] {E : ε → Prop}

/-! ## One item -/

theorem position_ensures {n : Nat} (hn : 0 < n) :
    Ensures (position n : Draw σ ε Nat) (· < n) E := by
  unfold position
  split
  · exact below32_ensures hn
  · exact below64_ensures hn

theorem steady_position (n : Nat) : Steady (position n : Draw σ ε Nat) := by
  unfold position
  split
  · exact steady_below32 n
  · exact steady_below64 n

/-- Only an empty list gives no item. -/
theorem element_ensures {α : Type} (items : List α) :
    Ensures (element items : Draw σ ε (Option α))
      (fun a? => (items = [] ∧ a? = none) ∨ ∃ a ∈ items, a? = some a) E := by
  cases items with
  | nil => exact ensures_pure (.inl ⟨rfl, rfl⟩)
  | cons item rest =>
      refine (position_ensures (Nat.succ_pos _)).bind fun i hi => ensures_pure (.inr ?_)
      exact ⟨_, List.getElem_mem hi, List.getElem?_eq_getElem hi⟩

theorem steady_element {α : Type} (items : List α) :
    Steady (element items : Draw σ ε (Option α)) := by
  cases items with
  | nil => exact steady_pure none
  | cons item rest => exact (steady_position _).bind fun _ => steady_pure _

/-! ## Distinct positions -/

/-- Different positions below `n`, `k` of them. -/
structure ArePositions (n k : Nat) (chosen : List Nat) : Prop where
  nodup : chosen.Nodup
  length : chosen.length = k
  lt : ∀ i ∈ chosen, i < n

theorem ArePositions.cons {n k t : Nat} {chosen : List Nat} (h : ArePositions n k chosen)
    (ht : t ∉ chosen) (hlt : t < n) : ArePositions n (k + 1) (t :: chosen) where
  nodup := List.nodup_cons.mpr ⟨ht, h.nodup⟩
  length := by rw [List.length_cons, h.length]
  lt i hi := by
    rcases List.mem_cons.mp hi with rfl | hi
    · exact hlt
    · exact h.lt i hi

theorem ArePositions.mono {n m k : Nat} {chosen : List Nat} (h : ArePositions n k chosen)
    (hnm : n ≤ m) : ArePositions m k chosen :=
  { h with lt := fun i hi => Nat.lt_of_lt_of_le (h.lt i hi) hnm }

theorem distinctGrowing_ensures :
    ∀ (count start k : Nat) (chosen : List Nat), ArePositions start k chosen →
      Ensures (distinctGrowing chosen (List.range' start count) : Draw σ ε (List Nat))
        (ArePositions (start + count) (k + count)) E
  | 0, _, _, _, h => ensures_pure h
  | count + 1, start, k, chosen, h => by
      rw [List.range'_succ]
      refine (below32_ensures (Nat.succ_pos start)).bind fun t ht => ?_
      have hnew : ArePositions (start + 1) (k + 1)
          (if t ∈ chosen then start :: chosen else t :: chosen) := by
        have h' := h.mono (Nat.le_succ start)
        split
        · exact h'.cons (fun hmem => Nat.lt_irrefl _ (h.lt start hmem)) (Nat.lt_succ_self start)
        · next hfree => exact h'.cons hfree ht
      simpa only [Nat.add_assoc, Nat.add_comm 1] using
        distinctGrowing_ensures count (start + 1) (k + 1) _ hnew

/-- Swapping keeps a permutation of the places. -/
theorem distinctSwapping_ensures {n : Nat} :
    ∀ (count i : Nat) (places : Array Nat), places.toList.Perm (List.range n) → i + count ≤ n →
      Ensures (distinctSwapping places i count : Draw σ ε (Array Nat))
        (fun out => out.toList.Perm (List.range n)) E
  | 0, _, _, h, _ => ensures_pure h
  | count + 1, i, places, h, hle => by
      have hsize : places.size = n := by simpa using h.length_eq
      refine (below32_ensures (by omega)).bind fun offset _ => ?_
      refine distinctSwapping_ensures count (i + 1) _ (.trans ?_ h) (by omega)
      unfold Array.swapIfInBounds
      split
      · split
        · exact (Array.swap_perm ..).toList
        · exact .refl _
      · exact .refl _

theorem freshBelow_ensures {n : Nat} (hn : 0 < n) (chosen : List Nat) :
    ∀ tries, Ensures (freshBelow n chosen tries : Draw σ ε Nat) (fun t => t < n ∧ t ∉ chosen) E
  | 0 => ensures_endless
  | tries + 1 => by
      refine ensures_limit.bind fun k _ => (redraw_ensures hn word32_ensures k).bind fun t ht => ?_
      split
      · exact freshBelow_ensures hn chosen tries
      · next hfree => exact ensures_pure ⟨ht, hfree⟩

theorem distinctRetrying_ensures {n : Nat} :
    ∀ (count k : Nat) (chosen : List Nat), ArePositions n k chosen → k + count ≤ n →
      Ensures (distinctRetrying n chosen count : Draw σ ε (List Nat))
        (ArePositions n (k + count)) E
  | 0, _, _, h, _ => ensures_pure h
  | count + 1, k, chosen, h, hle => by
      refine ensures_limit.bind fun tries _ => ?_
      refine (freshBelow_ensures (by omega) chosen tries).bind fun t ht => ?_
      simpa only [Nat.add_assoc, Nat.add_comm 1] using
        distinctRetrying_ensures count (k + 1) _ (h.cons ht.2 ht.1) (by omega)

theorem discardShuffle_ensures :
    ∀ k, Ensures (discardShuffle k : Draw σ ε Unit) (fun _ => True) E
  | 0 => ensures_pure trivial
  | k + 1 => by
      unfold discardShuffle
      split
      · exact ensures_pure trivial
      · exact (below32_ensures (Nat.succ_pos _)).bind fun _ _ => discardShuffle_ensures k

theorem distinct_ensures {n k : Nat} (hk : k ≤ n) :
    Ensures (distinct n k : Draw σ ε (List Nat)) (ArePositions n k) E := by
  unfold distinct
  split
  · have hgrow := distinctGrowing_ensures (E := E) (σ := σ) k (n - k) 0 []
      ⟨List.nodup_nil, rfl, by simp⟩
    rw [Nat.sub_add_cancel hk, Nat.zero_add] at hgrow
    refine hgrow.bind fun chosen h => ?_
    split
    · exact (discardShuffle_ensures k).bind fun _ _ => ensures_pure h
    · exact ensures_pure h
  · refine (distinctSwapping_ensures (n := n) k 0 _ (by simp) (by omega)).bind
      fun places h => ensures_pure ?_
    refine ⟨(h.nodup_iff.mpr List.nodup_range).sublist (List.take_sublist ..), ?_, fun i hi => ?_⟩
    · rw [List.length_take, h.length_eq, List.length_range, Nat.min_eq_left hk]
    · exact List.mem_range.mp (h.mem_iff.mp (List.mem_of_mem_take hi))
  · simpa using distinctRetrying_ensures (E := E) (σ := σ) (n := n) k 0 []
      ⟨List.nodup_nil, rfl, by simp⟩ (by omega)

/-! ## Several items -/

/-- Items picked together are a sublist, as long as asked for or as there are
items. -/
theorem elements_ensures {α : Type} (items : List α) (count : Nat) :
    Ensures (elements items count : Draw σ ε (List α))
      (fun picked => picked.Sublist items ∧ picked.length = min count items.length) E := by
  refine (distinct_ensures (Nat.min_le_right ..)).bind fun chosen h => ensures_pure ?_
  exact ⟨keepAt_sublist chosen 0 items, (length_keepAt h.nodup h.lt).trans h.length⟩

/-- A subset is a sublist, and it is empty only if there is nothing to pick from. -/
theorem subset_ensures {α : Type} (items : List α) :
    Ensures (subset items : Draw σ ε (List α))
      (fun picked => picked.Sublist items ∧ (items ≠ [] → picked ≠ [])) E := by
  cases items with
  | nil => exact ensures_pure ⟨.slnil, fun h => h⟩
  | cons item rest =>
      refine (below64_ensures (Nat.succ_pos _)).bind fun more _ => ?_
      refine (elements_ensures _ _).imp_value fun picked ⟨hsublist, hlength⟩ => ⟨hsublist, ?_⟩
      rintro - rfl
      simp only [List.length_nil, List.length_cons] at hlength
      omega

/-! ## Steadiness -/

theorem steady_distinctGrowing :
    ∀ (tops chosen : List Nat), Steady (distinctGrowing chosen tops : Draw σ ε (List Nat))
  | [], chosen => steady_pure chosen
  | _ :: rest, _ => (steady_below32 _).bind fun _ => steady_distinctGrowing rest _

theorem steady_distinctSwapping :
    ∀ (count i : Nat) (places : Array Nat),
      Steady (distinctSwapping places i count : Draw σ ε (Array Nat))
  | 0, _, places => steady_pure places
  | count + 1, i, _ => (steady_below32 _).bind fun _ => steady_distinctSwapping count (i + 1) _

theorem steady_freshBelow (n : Nat) (chosen : List Nat) :
    ∀ tries, Follows (· = ·) (· = ·) (freshBelow n chosen : Nat → Draw σ ε Nat)
      (freshBelow n chosen tries)
  | 0 => follows_endless
  | tries + 1 => by
      refine .of_succ ?_
      simp only [freshBelow, ← bind_assoc]
      refine Follows.bind (follows_limit_bind (steady_redraw steady_word32)) fun t _ ht => ?_
      subst ht
      split
      · exact steady_freshBelow n chosen tries
      · exact steady_pure t

theorem steady_distinctRetrying (n : Nat) :
    ∀ (count : Nat) (chosen : List Nat),
      Steady (distinctRetrying n chosen count : Draw σ ε (List Nat))
  | 0, chosen => steady_pure chosen
  | count + 1, chosen => by
      simp only [distinctRetrying, ← bind_assoc]
      exact Steady.bind (follows_limit_bind (steady_freshBelow n chosen)) fun t =>
        steady_distinctRetrying n count (t :: chosen)

theorem steady_discardShuffle : ∀ k, Steady (discardShuffle k : Draw σ ε Unit)
  | 0 => steady_pure ()
  | k + 1 => by
      unfold discardShuffle
      split
      · exact steady_pure ()
      · exact (steady_below32 _).bind fun _ => steady_discardShuffle k

theorem steady_distinct (n k : Nat) : Steady (distinct n k : Draw σ ε (List Nat)) := by
  unfold distinct
  split
  · refine (steady_distinctGrowing ..).bind fun chosen => ?_
    split
    · exact (steady_discardShuffle k).bind fun _ => steady_pure chosen
    · exact steady_pure chosen
  · exact (steady_distinctSwapping ..).bind fun _ => steady_pure _
  · exact steady_distinctRetrying n k []

theorem steady_elements {α : Type} (items : List α) (count : Nat) :
    Steady (elements items count : Draw σ ε (List α)) :=
  (steady_distinct ..).bind fun _ => steady_pure _

/-! ## Picks from two lists -/

variable {α β : Type} {P : α → β → Prop} {as : List α} {bs : List β} {F : ε → ε → Prop}

theorem keepAt_forall₂ (chosen : List Nat) (h : List.Forall₂ P as bs) :
    ∀ start, List.Forall₂ P (keepAt chosen start as) (keepAt chosen start bs) := by
  induction h with
  | nil => exact fun _ => .nil
  | cons hab _ ih =>
      intro start
      unfold keepAt
      split
      · exact .cons hab (ih (start + 1))
      · exact ih (start + 1)

theorem getElem?_forall₂ (h : List.Forall₂ P as bs) : ∀ i : Nat, Option.Rel P as[i]? bs[i]? := by
  induction h with
  | nil => exact fun _ => .none
  | cons hab _ ih =>
      intro i
      cases i with
      | zero => exact .some hab
      | succ i => simpa using ih i

/-- From two lists whose members are related one by one, related items are
picked: the positions depend on the length alone. -/
theorem element_follows (h : List.Forall₂ P as bs) (hF : ∀ e, F e e) :
    Follows (Option.Rel P) F (fun _ => (element as : Draw σ ε (Option α))) (element bs) := by
  have hlength := h.length_eq
  cases h with
  | nil => exact follows_pure .none
  | cons hab hrest =>
      unfold element
      dsimp only
      rw [hlength]
      refine ((steady_position _).follows (fun i => Eq.refl i) hF).bind fun i _ hi => ?_
      subst hi
      exact follows_pure (getElem?_forall₂ (.cons hab hrest) i)

theorem elements_follows (h : List.Forall₂ P as bs) (count : Nat) (hF : ∀ e, F e e) :
    Follows (List.Forall₂ P) F (fun _ => (elements as count : Draw σ ε (List α)))
      (elements bs count) := by
  unfold elements
  rw [h.length_eq]
  refine ((steady_distinct _ _).follows (fun i => Eq.refl i) hF).bind fun chosen _ hc => ?_
  subst hc
  exact follows_pure (keepAt_forall₂ chosen h 0)

theorem subset_follows (h : List.Forall₂ P as bs) (hF : ∀ e, F e e) :
    Follows (List.Forall₂ P) F (fun _ => (subset as : Draw σ ε (List α))) (subset bs) := by
  have hlength := h.length_eq
  cases h with
  | nil => exact follows_pure .nil
  | cons hab hrest =>
      unfold subset
      dsimp only
      rw [hlength]
      refine ((steady_below64 _).follows (fun i => Eq.refl i) hF).bind fun more _ hm => ?_
      subst hm
      exact elements_follows (.cons hab hrest) _ hF

end Specimen.Draw
