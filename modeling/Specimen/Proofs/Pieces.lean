import Mathlib.Data.List.Forall2
import Specimen.Pieces

/-!
# Pieces and what they are joined to

The pieces of a text hold no separator (`not_mem_of_mem_pieces`), and with separators between
them they are the text again (`intercalate_pieces`). Nothing else is such a list: texts without
a separator are the pieces of what they are joined to (`pieces_intercalate`).
-/

namespace Specimen

variable {separator : Char}

theorem pieces_eq_splitOn (s : List Char) : pieces separator s = s.splitOn separator := by
  induction s with
  | nil => rfl
  | cons c s ih =>
      obtain ⟨first, more, hs⟩ := List.exists_cons_of_ne_nil (List.splitOn_ne_nil separator s)
      rw [pieces, List.splitOn_cons_eq_if_modifyHead, ih, hs]
      by_cases hc : c = separator <;> simp [hc]

theorem pieces_ne_nil (s : List Char) : pieces separator s ≠ [] := by
  rw [pieces_eq_splitOn]
  exact List.splitOn_ne_nil separator s

theorem pieces_of_not_mem {s : List Char} (h : separator ∉ s) : pieces separator s = [s] := by
  rw [pieces_eq_splitOn, List.splitOn_eq_singleton h]

theorem pieces_append (s t : List Char) :
    pieces separator (s ++ separator :: t) = pieces separator s ++ pieces separator t := by
  simp only [pieces_eq_splitOn, List.splitOn_append_cons_self]

theorem pieces_cons_of_ne {c : Char} {s first : List Char} {more : List (List Char)}
    (hc : c ≠ separator) (hs : pieces separator s = first :: more) :
    pieces separator (c :: s) = (c :: first) :: more := by
  rw [pieces, if_neg hc, hs]

theorem not_mem_of_mem_pieces {s : List Char} : ∀ p ∈ pieces separator s, separator ∉ p := by
  induction s with
  | nil => simp [pieces]
  | cons c s ih =>
      by_cases hc : c = separator
      · simpa [pieces, hc] using ih
      · have hne : pieces separator s ≠ [] := pieces_ne_nil s
        obtain ⟨first, more, hs⟩ := List.exists_cons_of_ne_nil hne
        rw [hs] at ih
        rw [pieces_cons_of_ne hc hs]
        simpa [Ne.symm hc] using ih

/-! ## Joining -/

theorem intercalate_pieces (s : List Char) : [separator].intercalate (pieces separator s) = s := by
  rw [pieces_eq_splitOn, List.intercalate_splitOn]

theorem pieces_intercalate {ps : List (List Char)} (h : ∀ p ∈ ps, separator ∉ p) (hps : ps ≠ []) :
    pieces separator ([separator].intercalate ps) = ps := by
  rw [pieces_eq_splitOn, List.splitOn_intercalate separator h hps]

/-! ## Longer texts -/

/-- What is put around a text without a separator only makes its pieces longer. -/
theorem forall₂_subset_pieces {p q : List Char} (hp : separator ∉ p) (hq : separator ∉ q)
    (s : List Char) :
    List.Forall₂ (· ⊆ ·) (pieces separator s) (pieces separator (p ++ (s ++ q))) := by
  induction p with
  | nil =>
      induction s with
      | nil =>
          rw [List.nil_append, List.nil_append, pieces_of_not_mem hq]
          exact .cons (List.nil_subset q) .nil
      | cons c s ih =>
          by_cases hc : c = separator
          · simp only [List.nil_append, List.cons_append, pieces, if_pos hc]
            exact .cons (List.nil_subset _) ih
          · obtain ⟨first, more, hs⟩ := List.exists_cons_of_ne_nil (pieces_ne_nil s)
            obtain ⟨longer, others, hlonger⟩ := List.exists_cons_of_ne_nil (pieces_ne_nil (s ++ q))
            rw [List.nil_append, hs, hlonger] at ih
            rw [pieces_cons_of_ne hc hs, List.nil_append, List.cons_append,
              pieces_cons_of_ne hc hlonger]
            cases ih with
            | cons hfirst hmore => exact .cons (List.cons_subset_cons c hfirst) hmore
  | cons c p ih =>
      rw [List.mem_cons, not_or] at hp
      obtain ⟨first, more, hs⟩ := List.exists_cons_of_ne_nil (pieces_ne_nil s)
      obtain ⟨longer, others, hlonger⟩ :=
        List.exists_cons_of_ne_nil (pieces_ne_nil (p ++ (s ++ q)))
      have ih := ih hp.2
      rw [hs, hlonger] at ih
      rw [hs, List.cons_append, pieces_cons_of_ne (Ne.symm hp.1) hlonger]
      cases ih with
      | cons hfirst hmore => exact .cons (List.subset_cons_of_subset c hfirst) hmore

end Specimen
