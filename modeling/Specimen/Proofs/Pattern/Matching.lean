import Mathlib.Data.Nat.Init
import Specimen.Pattern.Search

/-!
# What a search finds

`Expr.Matches` says which parts of a text an expression matches, without a word
about how they are found. The search is complete for it: a match from one of the
places that are given ends at one of the places that are found (`mem_ends`).

Two things in the search need an argument. Repeating a step stops when no place is
new, and a standstill stays one. And a repetition without a greatest count is cut
off after as many rounds as the text has places: a repetition that gets from one
place to another can leave out the rounds that take up no characters, and what is
left moves on with every round (`Steps.shorten`).
-/

namespace Specimen.Pattern

/-! ## Steps -/

/-- A number of steps from one place to another. -/
def Steps (R : Nat → Nat → Prop) : Nat → Nat → Nat → Prop
  | 0, i, j => i = j
  | count + 1, i, j => ∃ k, R i k ∧ Steps R count k j

namespace Steps

variable {R : Nat → Nat → Prop}

theorem trans : ∀ {m n : Nat} {i j k : Nat}, Steps R m i j → Steps R n j k → Steps R (m + n) i k
  | 0, n, i, j, k, h, hrest => by
      rw [Nat.zero_add]
      exact h.symm ▸ hrest
  | m + 1, n, i, j, k, ⟨l, hl, h⟩, hrest => by
      rw [Nat.add_right_comm]
      exact ⟨l, hl, h.trans hrest⟩

theorem split : ∀ {m n : Nat} {i k : Nat}, Steps R (m + n) i k → ∃ j, Steps R m i j ∧ Steps R n j k
  | 0, n, i, k, h => ⟨i, rfl, Nat.zero_add n ▸ h⟩
  | m + 1, n, i, k, h => by
      rw [Nat.add_right_comm] at h
      obtain ⟨l, hl, h⟩ := h
      obtain ⟨j, hj, hrest⟩ := split h
      exact ⟨j, ⟨l, hl, hj⟩, hrest⟩

/-- What every step keeps is kept. -/
theorem keep {P : Nat → Prop} (hR : ∀ i j, R i j → P i → P j) :
    ∀ {n i j : Nat}, Steps R n i j → P i → P j
  | 0, _, _, h, hi => h ▸ hi
  | _ + 1, _, _, ⟨_, hk, h⟩, hi => h.keep hR (hR _ _ hk hi)

theorem le (hR : ∀ i j, R i j → i ≤ j) {n i j : Nat} (h : Steps R n i j) : i ≤ j :=
  h.keep (P := (i ≤ ·)) (fun _ _ hjk hij => Nat.le_trans hij (hR _ _ hjk)) (Nat.le_refl i)

/-- Without the steps that stay in place there are no more than places between. -/
theorem shorten (hR : ∀ i j, R i j → i ≤ j) :
    ∀ {n i j : Nat}, Steps R n i j → ∃ m, m ≤ n ∧ m ≤ j - i ∧ Steps R m i j
  | 0, i, j, h => ⟨0, Nat.le_refl 0, Nat.zero_le _, h⟩
  | n + 1, i, j, ⟨k, hk, h⟩ => by
      have hik := hR i k hk
      have hkj := h.le hR
      obtain ⟨m, hmn, hmj, hm⟩ := shorten hR h
      by_cases hstay : i = k
      · exact ⟨m, by omega, hstay ▸ hmj, hstay ▸ hm⟩
      · exact ⟨m + 1, by omega, by omega, k, hk, hm⟩

end Steps

/-! ## Matches -/

mutual

/-- An expression matches the part of a text between two places. A repetition that
starts from a least count adds at most what is left to the greatest. -/
def Expr.Matches (text : Array Char) : Expr → Nat → Nat → Prop
  | .empty, i, j => i = j
  | .text chars, i, j => standsAt text i chars = true ∧ j = i + chars.length
  | .charClass cls, i, j => (∃ c, text[i]? = some c ∧ cls.contains c = true) ∧ j = i + 1
  | .look l, i, j => l.holds text i = true ∧ i = j
  | .repetition min max _ body, i, j =>
    ∃ more, (∀ greatest, max = some greatest → more ≤ greatest - min)
      ∧ Steps (Expr.Matches text body) (min + more) i j
  | .capture body, i, j => Expr.Matches text body i j
  | .concat parts, i, j => Expr.MatchesAll text parts i j
  | .alternatives branches, i, j => Expr.MatchesAny text branches i j

/-- Expressions one after another match the part of a text between two places. -/
def Expr.MatchesAll (text : Array Char) : List Expr → Nat → Nat → Prop
  | [], i, j => i = j
  | e :: rest, i, j => ∃ k, Expr.Matches text e i k ∧ Expr.MatchesAll text rest k j

/-- One of several expressions matches the part of a text between two places. -/
def Expr.MatchesAny (text : Array Char) : List Expr → Nat → Nat → Prop
  | [], _, _ => False
  | e :: rest, i, j => Expr.Matches text e i j ∨ Expr.MatchesAny text rest i j

end

variable {text : Array Char}

namespace Expr

theorem matchesAny_iff {es : List Expr} {i j : Nat} :
    MatchesAny text es i j ↔ ∃ e ∈ es, e.Matches text i j := by
  induction es with
  | nil => simp [MatchesAny]
  | cons e rest ih => simp [MatchesAny, ih]

theorem matchesAll_append {es fs : List Expr} {i j : Nat} :
    MatchesAll text (es ++ fs) i j ↔ ∃ k, MatchesAll text es i k ∧ MatchesAll text fs k j := by
  induction es generalizing i with
  | nil => simp [MatchesAll]
  | cons e rest ih =>
      simp only [List.cons_append, MatchesAll, ih]
      constructor
      · rintro ⟨k, hk, l, hl, h⟩
        exact ⟨l, ⟨k, hk, hl⟩, h⟩
      · rintro ⟨l, ⟨k, hk, hl⟩, h⟩
        exact ⟨k, hk, l, hl, h⟩

theorem matchesAll_singleton {e : Expr} {i j : Nat} :
    MatchesAll text [e] i j ↔ e.Matches text i j := by
  simp [MatchesAll]

end Expr

/-! ## Places in a text -/

theorem length_le_of_standsAt : ∀ {chars : List Char} {i : Nat}, standsAt text i chars = true →
    i + chars.length ≤ max i text.size
  | [], i, _ => Nat.le_max_left i _
  | c :: rest, i, h => by
      unfold standsAt at h
      rw [Bool.and_eq_true, beq_iff_eq] at h
      obtain ⟨hlt, -⟩ := Array.getElem?_eq_some_iff.mp h.1
      have hle := length_le_of_standsAt h.2
      simp only [List.length_cons]
      omega

mutual

/-- A match does not go back and does not leave the text. -/
theorem Expr.Matches.range : ∀ {e : Expr} {i j : Nat}, e.Matches text i j →
    i ≤ j ∧ j ≤ max i text.size
  | .empty, i, j, h => by
      unfold Expr.Matches at h
      omega
  | .text chars, i, j, h => by
      unfold Expr.Matches at h
      exact ⟨by omega, h.2 ▸ length_le_of_standsAt h.1⟩
  | .charClass cls, i, j, h => by
      unfold Expr.Matches at h
      obtain ⟨⟨c, hc, -⟩, rfl⟩ := h
      obtain ⟨hlt, -⟩ := Array.getElem?_eq_some_iff.mp hc
      omega
  | .look l, i, j, h => by
      unfold Expr.Matches at h
      omega
  | .repetition min max greedy body, i, j, h => by
      unfold Expr.Matches at h
      obtain ⟨more, -, h⟩ := h
      refine ⟨h.le fun k l hkl => (Expr.Matches.range hkl).1, ?_⟩
      refine h.keep (P := (· ≤ Max.max i text.size)) (fun k l hkl hk => ?_) (Nat.le_max_left i _)
      have hle := (Expr.Matches.range hkl).2
      omega
  | .capture body, i, j, h => by
      unfold Expr.Matches at h
      exact Expr.Matches.range h
  | .concat parts, i, j, h => by
      unfold Expr.Matches at h
      exact Expr.MatchesAll.range h
  | .alternatives branches, i, j, h => by
      unfold Expr.Matches at h
      exact Expr.MatchesAny.range h

theorem Expr.MatchesAll.range : ∀ {es : List Expr} {i j : Nat}, Expr.MatchesAll text es i j →
    i ≤ j ∧ j ≤ max i text.size
  | [], i, j, h => by
      unfold Expr.MatchesAll at h
      omega
  | e :: rest, i, j, h => by
      unfold Expr.MatchesAll at h
      obtain ⟨k, hk, h⟩ := h
      have hik := Expr.Matches.range hk
      have hkj := Expr.MatchesAll.range h
      omega

theorem Expr.MatchesAny.range : ∀ {es : List Expr} {i j : Nat}, Expr.MatchesAny text es i j →
    i ≤ j ∧ j ≤ max i text.size
  | [], i, j, h => by
      unfold Expr.MatchesAny at h
      exact h.elim
  | e :: rest, i, j, h => by
      unfold Expr.MatchesAny at h
      exact h.elim Expr.Matches.range Expr.MatchesAny.range

end

/-! ## Lists of places -/

theorem mem_insertPlace {i j : Nat} : ∀ {places : List Nat},
    j ∈ insertPlace i places ↔ j = i ∨ j ∈ places
  | [] => by simp [insertPlace]
  | k :: rest => by
      unfold insertPlace
      split
      · simp
      · split
        · next heq => simp [heq]
        · rw [List.mem_cons, mem_insertPlace, List.mem_cons, or_left_comm]

theorem mem_mergePlaces {j : Nat} : ∀ {a b : List Nat}, j ∈ mergePlaces a b ↔ j ∈ a ∨ j ∈ b
  | a, [] => by simp [mergePlaces]
  | a, i :: rest => by
      have ih := mem_mergePlaces (j := j) (a := insertPlace i a) (b := rest)
      unfold mergePlaces at ih ⊢
      rw [List.foldl_cons, ih, mem_insertPlace, List.mem_cons, or_comm (a := j = i), or_assoc]

/-! ## Repetition -/

section

variable {R : Nat → Nat → Prop} {step : List Nat → List Nat}

/-- Places that no step leads out of hold whatever is reached from them. -/
theorem mem_of_steps {places : List Nat} (hclosed : ∀ i ∈ places, ∀ j, R i j → j ∈ places)
    {n i j : Nat} (h : Steps R n i j) (hi : i ∈ places) : j ∈ places :=
  h.keep (P := (· ∈ places)) (fun k l hkl hk => hclosed k hk l hkl) hi

variable (hstep : ∀ places i j, i ∈ places → R i j → j ∈ step places)
include hstep

theorem mem_iterateStep : ∀ {count : Nat} {places : List Nat} {i j : Nat}, i ∈ places →
    Steps R count i j → j ∈ iterateStep step count places
  | 0, _, _, _, hi, h => h ▸ hi
  | count + 1, places, i, j, hi, ⟨k, hk, h⟩ => by
      have hnext := hstep places i k hi hk
      unfold iterateStep
      dsimp only
      split
      · next hstill =>
          rw [hstill] at hnext
          exact mem_of_steps (fun a ha b hab => hstill ▸ hstep places a b ha hab) h hnext
      · exact mem_iterateStep hnext h

/-- Where every place that was found before the last round has been left by all its
steps, further rounds find what further steps reach. -/
theorem mem_reach : ∀ {count : Nat} {found fresh : List Nat},
    (∀ i ∈ found, i ∈ fresh ∨ ∀ j, R i j → j ∈ found) →
    ∀ {n i j : Nat}, i ∈ found → n ≤ count → Steps R n i j → j ∈ reach step found count fresh
  | 0, found, fresh, _, n, i, j, hi, hn, h => by
      obtain rfl : n = 0 := by omega
      exact h ▸ hi
  | count + 1, found, fresh, hleft, n, i, j, hi, hn, h => by
      -- what one more step reaches from a place that was found is found already or new
      have hnext (k l : Nat) (hk : k ∈ found) (hkl : R k l) :
          l ∈ found ∨ l ∈ (step fresh).filter fun i => !found.contains i := by
        by_cases hl : l ∈ found
        · exact .inl hl
        · refine .inr (List.mem_filter.mpr ⟨?_, by simpa using hl⟩)
          rcases hleft k hk with hfresh | hall
          · exact hstep fresh k l hfresh hkl
          · exact absurd (hall l hkl) hl
      unfold reach
      split
      · next hnone =>
          refine mem_of_steps (fun k hk l hkl => (hnext k l hk hkl).resolve_right ?_) h hi
          rw [hnone]
          exact List.not_mem_nil
      · have hleft' : ∀ k ∈ mergePlaces found ((step fresh).filter fun i => !found.contains i),
            k ∈ (step fresh).filter (fun i => !found.contains i)
              ∨ ∀ l, R k l → l ∈ mergePlaces found
                ((step fresh).filter fun i => !found.contains i) := by
          intro k hk
          rcases mem_mergePlaces.mp hk with hk | hk
          · exact .inr fun l hkl => mem_mergePlaces.mpr (hnext k l hk hkl)
          · exact .inl hk
        cases n with
        | zero =>
            exact mem_reach hleft' (mem_mergePlaces.mpr (.inl hi)) (Nat.zero_le _) h
        | succ n =>
            obtain ⟨k, hk, h⟩ := h
            exact mem_reach hleft' (mem_mergePlaces.mpr (hnext i k hi hk)) (by omega) h

end

/-! ## The search -/

/-- A search through a repetition is complete if a search through its body is. -/
theorem mem_ends_repetition {body : Expr} {min : Nat} {max : Option Nat} {greedy : Bool}
    (hbody : ∀ places i j, i ∈ places → body.Matches text i j → j ∈ body.ends text places)
    {starts : List Nat} {i j : Nat} (hi : i ∈ starts)
    (h : (Expr.repetition min max greedy body).Matches text i j) :
    j ∈ (Expr.repetition min max greedy body).ends text starts := by
  unfold Expr.Matches at h
  obtain ⟨more, hmore, h⟩ := h
  obtain ⟨k, hleast, hrest⟩ := h.split
  obtain ⟨rounds, hrounds, hshort, hrest⟩ :=
    hrest.shorten fun a b hab => (Expr.Matches.range hab).1
  have hsize : rounds ≤ text.size := by
    have hjk := hrest.keep (P := (· ≤ Max.max k text.size))
      (fun a b hab ha => by have := (Expr.Matches.range hab).2; omega) (Nat.le_max_left k _)
    omega
  have hfound := mem_iterateStep hbody hi hleast
  unfold Expr.ends
  refine mem_reach hbody (fun a ha => .inl ha) hfound ?_ hrest
  cases max with
  | none => exact Nat.le_succ_of_le hsize
  | some greatest =>
      have hle := hmore greatest rfl
      exact Nat.le_min.mpr ⟨by omega, by omega⟩

mutual

/-- A match from a given place ends at a place that is found. -/
theorem Expr.mem_ends : ∀ {e : Expr} {starts : List Nat} {i j : Nat}, i ∈ starts →
    e.Matches text i j → j ∈ e.ends text starts
  | .empty, starts, i, j, hi, h => by
      unfold Expr.Matches at h
      unfold Expr.ends
      exact h ▸ hi
  | .text chars, starts, i, j, hi, h => by
      unfold Expr.Matches at h
      unfold Expr.ends
      exact List.mem_map.mpr ⟨i, List.mem_filter.mpr ⟨hi, h.1⟩, h.2.symm⟩
  | .charClass cls, starts, i, j, hi, h => by
      unfold Expr.Matches at h
      obtain ⟨⟨c, hc, hcls⟩, rfl⟩ := h
      unfold Expr.ends
      refine List.mem_map.mpr ⟨i, List.mem_filter.mpr ⟨hi, ?_⟩, rfl⟩
      rw [hc]
      exact hcls
  | .look l, starts, i, j, hi, h => by
      unfold Expr.Matches at h
      unfold Expr.ends
      exact List.mem_filter.mpr ⟨h.2 ▸ hi, h.2 ▸ h.1⟩
  | .repetition min max greedy body, starts, i, j, hi, h =>
      mem_ends_repetition (fun _ _ _ ha hab => Expr.mem_ends ha hab) hi h
  | .capture body, starts, i, j, hi, h => by
      unfold Expr.Matches at h
      unfold Expr.ends
      exact Expr.mem_ends hi h
  | .concat parts, starts, i, j, hi, h => by
      unfold Expr.Matches at h
      unfold Expr.ends
      exact Expr.mem_endsAll hi h
  | .alternatives branches, starts, i, j, hi, h => by
      unfold Expr.Matches at h
      unfold Expr.ends
      exact Expr.mem_endsAny hi h

theorem Expr.mem_endsAll : ∀ {es : List Expr} {starts : List Nat} {i j : Nat}, i ∈ starts →
    Expr.MatchesAll text es i j → j ∈ Expr.endsAll text starts es
  | [], starts, i, j, hi, h => by
      unfold Expr.MatchesAll at h
      unfold Expr.endsAll
      exact h ▸ hi
  | e :: rest, starts, i, j, hi, h => by
      unfold Expr.MatchesAll at h
      obtain ⟨k, hk, h⟩ := h
      unfold Expr.endsAll
      exact Expr.mem_endsAll (Expr.mem_ends hi hk) h

theorem Expr.mem_endsAny : ∀ {es : List Expr} {starts : List Nat} {i j : Nat}, i ∈ starts →
    Expr.MatchesAny text es i j → j ∈ Expr.endsAny text starts es
  | [], starts, i, j, _, h => by
      unfold Expr.MatchesAny at h
      exact h.elim
  | e :: rest, starts, i, j, hi, h => by
      unfold Expr.MatchesAny at h
      unfold Expr.endsAny
      exact mem_mergePlaces.mpr (h.imp (Expr.mem_ends hi) (Expr.mem_endsAny hi))

end

/-- A text is found to hold a match if it has one. -/
theorem Expr.isFoundIn_of_matches {e : Expr} {text : List Char} {i j : Nat} (hi : i ≤ text.length)
    (h : e.Matches text.toArray i j) : e.isFoundIn text = true := by
  have hmem : j ∈ e.ends text.toArray (List.range (text.length + 1)) :=
    Expr.mem_ends (List.mem_range.mpr (Nat.lt_succ_of_le hi)) h
  unfold Expr.isFoundIn
  rw [Bool.not_eq_true', List.isEmpty_eq_false_iff]
  exact List.ne_nil_of_mem hmem

end Specimen.Pattern
