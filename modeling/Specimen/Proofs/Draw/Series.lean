import Specimen.Random.Draw

/-!
# Draws made again and again

A draw that is made a number of times goes on with the source that it left, however it
ended. `results` is how it ends each time. A series of values (`Draw.series`) is what
these results begin with, up to the first that is no value.
-/

namespace Specimen.Draw

variable {σ ε α : Type}

/-- How a draw ends, each time it is made on the source that the last time has left. -/
def results (x : Draw σ ε α) (limit : Nat) : Nat → σ → List (Except (Stop ε) α)
  | 0, _ => []
  | count + 1, s => (x.run limit s).1 :: results x limit count (x.run limit s).2

variable (x : Draw σ ε α) (limit : Nat)

/-- Results are all values, or values up to a first that is none. -/
theorem results_cases (count : Nat) (s : σ) :
    (∃ as : List α, results x limit count s = as.map .ok)
      ∨ ∃ (as : List α) (stop : Stop ε) (rest : List (Except (Stop ε) α)),
        results x limit count s = as.map .ok ++ .error stop :: rest := by
  generalize results x limit count s = rs
  induction rs with
  | nil => exact .inl ⟨[], rfl⟩
  | cons r rs ih =>
      cases r with
      | error stop => exact .inr ⟨[], stop, rs, rfl⟩
      | ok a =>
          rcases ih with ⟨as, rfl⟩ | ⟨as, stop, rest, rfl⟩
          · exact .inl ⟨a :: as, rfl⟩
          · exact .inr ⟨a :: as, stop, rest, rfl⟩

/-- Values that results begin with are among those before the first that is none. -/
theorem isPrefix_of_map_ok {as bs : List α} {tail : List (Except (Stop ε) α)}
    (htail : ∀ a, tail.head? ≠ some (.ok a)) (h : as.map Except.ok <+: bs.map .ok ++ tail) :
    as <+: bs := by
  induction as generalizing bs with
  | nil => exact List.nil_prefix
  | cons a as ih =>
      cases bs with
      | nil =>
          obtain ⟨rest, rfl⟩ := h
          exact (htail a rfl).elim
      | cons b bs =>
          obtain ⟨hhead, hrest⟩ := List.cons_prefix_cons.mp h
          cases hhead
          exact List.cons_prefix_cons.mpr ⟨rfl, ih hrest⟩

variable {x limit} {count : Nat} {s s' : σ}

theorem series_succ_of_ok {a : α} (h : x.run limit s = (.ok a, s')) :
    series x limit (count + 1) s
      = (a :: (series x limit count s').1, (series x limit count s').2) := by
  have hx : x limit s = (.ok a, s') := h
  simp only [series, hx]

theorem series_succ_of_error {stop : Stop ε} (h : x.run limit s = (.error stop, s')) :
    series x limit (count + 1) s = ([], some stop) := by
  have hx : x limit s = (.error stop, s') := h
  simp only [series, hx]

theorem series_of_values {as : List α} : ∀ {count : Nat} {s : σ},
    results x limit count s = as.map .ok → series x limit count s = (as, none) := by
  induction as with
  | nil =>
      rintro (_ | count) s h
      · rfl
      · cases h
  | cons a as ih =>
      rintro (_ | count) s h
      · cases h
      · obtain ⟨hfirst, hrest⟩ := List.cons.inj h
        rw [series_succ_of_ok (Prod.ext hfirst rfl), ih hrest]

/-- A series ends at the first result that is no value. -/
theorem series_of_stop {as : List α} {stop : Stop ε} {rest : List (Except (Stop ε) α)} :
    ∀ {count : Nat} {s : σ}, results x limit count s = as.map .ok ++ .error stop :: rest →
      series x limit count s = (as, some stop) := by
  induction as with
  | nil =>
      rintro (_ | count) s h
      · cases h
      · obtain ⟨hfirst, -⟩ := List.cons.inj h
        exact series_succ_of_error (Prod.ext hfirst rfl)
  | cons a as ih =>
      rintro (_ | count) s h
      · cases h
      · obtain ⟨hfirst, hrest⟩ := List.cons.inj h
        rw [series_succ_of_ok (Prod.ext hfirst rfl), ih hrest]

end Specimen.Draw
