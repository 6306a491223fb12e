import Mathlib.Logic.Basic
import Specimen.Proofs.Pattern.CharClass
import Specimen.Proofs.Pattern.Matching

/-!
# Built expressions match what they are built from

Sequences and alternatives are kept simple while they are built: texts are joined,
single characters make a class, a common beginning is taken out. None of this
changes what is matched (`matches_ofParts`, `matches_ofBranches`).
-/

namespace Specimen.Pattern

variable {text : Array Char}

theorem standsAt_append : ∀ {a b : List Char} {i : Nat},
    standsAt text i (a ++ b) = (standsAt text i a && standsAt text (i + a.length) b)
  | [], _, _ => rfl
  | c :: rest, b, i => by
      simp only [List.cons_append, standsAt, standsAt_append (a := rest), List.length_cons,
        Bool.and_assoc]
      rw [Nat.add_right_comm, ← Nat.add_assoc]

namespace Expr

/-! ## Classes -/

theorem matches_ofClass {cls : CharClass} {i j : Nat} :
    (ofClass cls).Matches text i j ↔ (charClass cls).Matches text i j := by
  unfold ofClass
  split
  · next c hsingle =>
      simp only [Matches, standsAt, Bool.and_true, beq_iff_eq,
        CharClass.contains_of_single? hsingle, exists_eq_right, List.length_singleton]
  · rfl

/-! ## Sequences -/

theorem matchesAll_parts {e : Expr} {i j : Nat} :
    MatchesAll text e.parts i j ↔ e.Matches text i j := by
  cases e with
  | empty => simp only [parts, MatchesAll, Matches]
  | concat es => simp only [parts, Matches]
  | _ => exact matchesAll_singleton

theorem matchesAll_flatMap_parts {es : List Expr} {i j : Nat} :
    MatchesAll text (es.flatMap parts) i j ↔ MatchesAll text es i j := by
  induction es generalizing i with
  | nil => rfl
  | cons e rest ih =>
      simp only [List.flatMap_cons, matchesAll_append, matchesAll_parts, ih, MatchesAll]

theorem matchesAll_joinTexts : ∀ (es : List Expr) {i j : Nat},
    MatchesAll text (joinTexts es) i j ↔ MatchesAll text es i j
  | [], _, _ => Iff.rfl
  | .text a :: rest, i, j => by
      have ih (k : Nat) := matchesAll_joinTexts rest (i := k) (j := j)
      unfold joinTexts
      split
      · next b more hjoined =>
          rw [hjoined] at ih
          simp only [MatchesAll, Matches, ← ih, standsAt_append, Bool.and_eq_true,
            List.length_append]
          constructor
          · rintro ⟨k, ⟨⟨ha, hb⟩, rfl⟩, h⟩
            exact ⟨i + a.length, ⟨ha, rfl⟩, i + a.length + b.length, ⟨hb, rfl⟩,
              Nat.add_assoc i _ _ ▸ h⟩
          · rintro ⟨_, ⟨ha, rfl⟩, _, ⟨hb, rfl⟩, h⟩
            exact ⟨_, ⟨⟨ha, hb⟩, Nat.add_assoc i _ _⟩, h⟩
      · simp only [MatchesAll, ih]
  | .empty :: rest, i, j => by simp only [joinTexts, MatchesAll, matchesAll_joinTexts rest]
  | .charClass _ :: rest, i, j => by
      simp only [joinTexts, MatchesAll, matchesAll_joinTexts rest]
  | .look _ :: rest, i, j => by simp only [joinTexts, MatchesAll, matchesAll_joinTexts rest]
  | .repetition .. :: rest, i, j => by
      simp only [joinTexts, MatchesAll, matchesAll_joinTexts rest]
  | .capture _ :: rest, i, j => by
      simp only [joinTexts, MatchesAll, matchesAll_joinTexts rest]
  | .concat _ :: rest, i, j => by
      simp only [joinTexts, MatchesAll, matchesAll_joinTexts rest]
  | .alternatives _ :: rest, i, j => by
      simp only [joinTexts, MatchesAll, matchesAll_joinTexts rest]

/-- A sequence matches what its parts match one after another. -/
theorem matches_ofParts {es : List Expr} {i j : Nat} :
    (ofParts es).Matches text i j ↔ MatchesAll text es i j := by
  rw [← matchesAll_flatMap_parts, ← matchesAll_joinTexts]
  unfold ofParts
  split
  · next hparts => simp only [hparts, Matches, MatchesAll]
  · next e hparts => rw [hparts, matchesAll_singleton]
  · simp only [Matches]

/-! ## Equal expressions -/

mutual

theorem eq_of_same : ∀ {a b : Expr}, same a b = true → a = b
  | .empty, .empty, _ => rfl
  | .text a, .text b, h => by
      unfold same at h
      rw [beq_iff_eq.mp h]
  | .charClass a, .charClass b, h => by
      unfold same at h
      rw [beq_iff_eq.mp h]
  | .look a, .look b, h => by
      unfold same at h
      rw [beq_iff_eq.mp h]
  | .repetition min max greedy body, .repetition min' max' greedy' body', h => by
      unfold same at h
      simp only [Bool.and_eq_true, beq_iff_eq] at h
      obtain ⟨⟨⟨rfl, rfl⟩, rfl⟩, hbody⟩ := h
      rw [eq_of_same hbody]
  | .concat a, .concat b, h => by
      unfold same at h
      rw [eq_of_sameAll h]
  | .alternatives a, .alternatives b, h => by
      unfold same at h
      rw [eq_of_sameAll h]

theorem eq_of_sameAll : ∀ {as bs : List Expr}, sameAll as bs = true → as = bs
  | [], [], _ => rfl
  | a :: as, b :: bs, h => by
      unfold sameAll at h
      rw [Bool.and_eq_true] at h
      rw [eq_of_same h.1, eq_of_sameAll h.2]

end

/-! ## Common beginnings -/

/-- Members on which a function that undoes a constructor has values are made by it. -/
theorem eq_map_of_onAll {α : Type} {f : Expr → Option α} {g : α → Expr}
    (hf : ∀ e a, f e = some a → e = g a) :
    ∀ {es : List Expr} {as : List α}, onAll f es = some as → es = as.map g
  | [], as, h => by
      obtain rfl := Option.some.inj h
      rfl
  | e :: rest, as, h => by
      unfold onAll at h
      split at h
      · next a as' ha has =>
          obtain rfl := Option.some.inj h
          rw [List.map_cons, ← eq_map_of_onAll hf has, ← hf e a ha]
      · cases h

theorem take_eq_of_commonLength : ∀ {as bs : List Expr} {n : Nat}, n ≤ commonLength as bs →
    as.take n = bs.take n
  | _, _, 0, _ => by rw [List.take_zero, List.take_zero]
  | [], _, n + 1, h => by simp [commonLength] at h
  | a :: as, [], n + 1, h => by simp [commonLength] at h
  | a :: as, b :: bs, n + 1, h => by
      unfold commonLength at h
      split at h
      · next hsame =>
          rw [List.take_succ_cons, List.take_succ_cons, eq_of_same hsame,
            take_eq_of_commonLength (Nat.le_of_succ_le_succ h)]
      · cases h

theorem foldl_min_le {α : Type} (f : α → Nat) : ∀ (as : List α) (n : Nat),
    as.foldl (fun n a => min n (f a)) n ≤ n ∧ ∀ a ∈ as, as.foldl (fun n a => min n (f a)) n ≤ f a
  | [], n => ⟨Nat.le_refl n, fun _ ha => nomatch ha⟩
  | b :: as, n => by
      obtain ⟨hle, hall⟩ := foldl_min_le f as (min n (f b))
      rw [List.foldl_cons]
      refine ⟨by omega, fun a ha => ?_⟩
      rcases List.mem_cons.mp ha with rfl | ha
      · omega
      · exact hall a ha

/-- Sequences are their common beginning and their rests. -/
theorem eq_map_of_commonFront? {seqs rests : List (List Expr)} {front : List Expr}
    (h : commonFront? seqs = some (front, rests)) : seqs = rests.map (front ++ ·) := by
  cases seqs with
  | nil => cases h
  | cons first others =>
      unfold commonFront? at h
      dsimp only at h
      generalize hlength : others.foldl (fun n parts => min n (commonLength first parts))
        first.length = length at h
      obtain ⟨-, hall⟩ := foldl_min_le (commonLength first) others first.length
      rw [hlength] at hall
      split at h
      · cases h
      · obtain ⟨rfl, rfl⟩ := Prod.mk.inj (Option.some.inj h)
        rw [List.map_map]
        symm
        refine (List.map_congr_left fun parts hparts => ?_).trans (List.map_id _)
        show first.take length ++ parts.drop length = parts
        rcases List.mem_cons.mp hparts with rfl | hparts
        · exact List.take_append_drop ..
        · rw [take_eq_of_commonLength (hall parts hparts), List.take_append_drop]

/-! ## Alternatives -/

theorem matchesAny_branches {e : Expr} {i j : Nat} :
    MatchesAny text e.branches i j ↔ e.Matches text i j := by
  cases e with
  | alternatives es => simp only [branches, Matches]
  | _ => simp only [branches, MatchesAny, or_false]

theorem matchesAny_flatMap_branches {es : List Expr} {i j : Nat} :
    MatchesAny text (es.flatMap branches) i j ↔ MatchesAny text es i j := by
  simp only [matchesAny_iff, List.mem_flatMap]
  constructor
  · rintro ⟨e, ⟨f, hf, he⟩, h⟩
    exact ⟨f, hf, matchesAny_branches.mp (matchesAny_iff.mpr ⟨e, he, h⟩)⟩
  · rintro ⟨f, hf, h⟩
    obtain ⟨e, he, h⟩ := matchesAny_iff.mp (matchesAny_branches.mpr h)
    exact ⟨e, ⟨f, hf, he⟩, h⟩

theorem matchesAny_of_classOf? {es : List Expr} {cls : CharClass} (h : classOf? es = some cls)
    {i j : Nat} : (charClass cls).Matches text i j ↔ MatchesAny text es i j := by
  have hchar (e : Expr) (c : Char) (he : e.char? = some c) : e = .text [c] := by
    unfold char? at he
    split at he
    · rw [Option.some.inj he]
    · cases he
  have hclass (e : Expr) (cls : CharClass) (he : e.class? = some cls) : e = .charClass cls := by
    unfold class? at he
    split at he
    · rw [Option.some.inj he]
    · cases he
  rw [matchesAny_iff]
  unfold classOf? at h
  split at h
  · next chars hchars =>
      obtain rfl := Option.some.inj h
      rw [eq_map_of_onAll hchar hchars]
      simp only [Matches, CharClass.contains_ofRanges, List.mem_map, exists_exists_and_eq_and,
        CharRange.contains_single, standsAt, Bool.and_true, beq_iff_eq, List.length_singleton]
      constructor
      · rintro ⟨⟨c, hc, d, hd, rfl⟩, rfl⟩
        exact ⟨c, hd, hc, rfl⟩
      · rintro ⟨c, hc, h, rfl⟩
        exact ⟨⟨c, h, c, hc, rfl⟩, rfl⟩
  · obtain ⟨classes, hclasses, rfl⟩ := Option.map_eq_some_iff.mp h
    rw [eq_map_of_onAll hclass hclasses]
    simp only [Matches, CharClass.contains_foldl_union, CharClass.contains_empty,
      Bool.false_eq_true, false_or, List.mem_map, exists_exists_and_eq_and]
    constructor
    · rintro ⟨⟨c, hc, cls, hcls, h⟩, rfl⟩
      exact ⟨cls, hcls, ⟨c, hc, h⟩, rfl⟩
    · rintro ⟨cls, hcls, ⟨c, hc, h⟩, rfl⟩
      exact ⟨⟨c, hc, cls, hcls, h⟩, rfl⟩

theorem matches_ofDistinct {es : List Expr} {i j : Nat} :
    (ofDistinct es).Matches text i j ↔ MatchesAny text es i j := by
  rw [← matchesAny_flatMap_branches]
  unfold ofDistinct
  split
  · next hbranches => simp [hbranches, Matches, MatchesAny, CharClass.contains_empty]
  · next e hbranches => simp only [hbranches, MatchesAny, or_false]
  · split
    · next cls hcls => rw [matches_ofClass, matchesAny_of_classOf? hcls]
    · simp only [Matches]

theorem matches_factor : ∀ {rounds : Nat} {es : List Expr} {i j : Nat},
    (factor rounds es).Matches text i j ↔ MatchesAny text es i j
  | 0, _, _, _ => matches_ofDistinct
  | rounds + 1, es, i, j => by
      have hsequence (e : Expr) (es : List Expr) (he : e.sequence? = some es) : e = .concat es := by
        unfold sequence? at he
        split at he
        · rw [Option.some.inj he]
        · cases he
      rw [← matchesAny_flatMap_branches]
      unfold factor
      split
      · next hbranches => simp [hbranches, Matches, MatchesAny, CharClass.contains_empty]
      · next e hbranches => simp only [hbranches, MatchesAny, or_false]
      · split
        · next cls hcls => rw [matches_ofClass, matchesAny_of_classOf? hcls]
        · split
          · simp only [Matches]
          · next front rests hfront =>
              obtain ⟨seqs, hseqs, hcommon⟩ := Option.bind_eq_some_iff.mp hfront
              rw [matches_ofParts, eq_map_of_onAll hsequence hseqs,
                eq_map_of_commonFront? hcommon, matchesAny_iff]
              simp only [matchesAll_append, matchesAll_singleton, matches_factor, matchesAny_iff,
                List.mem_map, exists_exists_and_eq_and, matches_ofParts, Matches]
              constructor
              · rintro ⟨k, hk, rest, hrest, h⟩
                exact ⟨rest, hrest, k, hk, h⟩
              · rintro ⟨rest, hrest, k, hk, h⟩
                exact ⟨k, hk, rest, hrest, h⟩

/-- Alternatives match what one of their branches matches. -/
theorem matches_ofBranches {es : List Expr} {i j : Nat} :
    (ofBranches es).Matches text i j ↔ MatchesAny text es i j :=
  matches_factor

end Expr

end Specimen.Pattern
