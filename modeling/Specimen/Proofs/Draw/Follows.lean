import Specimen.Proofs.Draw.Ensures

/-!
# One draw following another

Two draws are compared by running them on one source. `Follows R E x y` reads:
wherever `y` ends, `x` ends too and takes the same words; their values are
related by `R`, their failures by `E`. What a limit cuts off does not count as an
end, so `x` is given room: it is a family of draws, one for every depth, and it
is asked for the outcome at all depths and all limits from some point on.

The relation composes (`Follows.bind`), which turns a comparison of two programs
into a comparison of their parts. A draw that follows itself is `Steady`: once it
ends, no greater limit changes how. Depth is compared apart from the limit
because the descent into a schema uses up depth and leaves the limit alone.
-/

namespace Specimen.Draw

variable {σ ε ε' α β α' β' : Type}

/-! ## The relation -/

/-- Two ends that are related: both values or both failures. -/
inductive Agree (R : α → β → Prop) (E : ε → ε' → Prop) :
    Except (Stop ε) α → Except (Stop ε') β → Prop
  | value {a : α} {b : β} (h : R a b) : Agree R E (.ok a) (.ok b)
  | failure {e : ε} {e' : ε'} (h : E e e') : Agree R E (.error (.failed e)) (.error (.failed e'))

/-- Wherever `y` ends, the draws of the family `x` end alike, from some depth and
some limit on. -/
def Follows (R : α → β → Prop) (E : ε → ε' → Prop) (x : Nat → Draw σ ε α) (y : Draw σ ε' β) :
    Prop :=
  ∀ ⦃limit s r s'⦄, y.run limit s = (r, s') → r ≠ .error .endless →
    ∃ r', Agree R E r' r ∧ ∃ m, ∀ n ≥ m, ∀ limit ≥ m, (x n).run limit s = (r', s')

/-- A draw that ends as it ends under every greater limit. -/
def Steady (x : Draw σ ε α) : Prop := Follows (· = ·) (· = ·) (fun _ => x) x

variable {R : α → β → Prop} {R' : α' → β' → Prop} {E : ε → ε' → Prop}
variable {x : Nat → Draw σ ε α} {y : Draw σ ε' β}

theorem Agree.imp {S : α → β → Prop} {F : ε → ε' → Prop} {r : Except (Stop ε) α}
    {r' : Except (Stop ε') β} (h : Agree R E r r') (hR : ∀ a b, R a b → S a b)
    (hE : ∀ e e', E e e' → F e e') : Agree S F r r' := by
  cases h with
  | value h => exact .value (hR _ _ h)
  | failure h => exact .failure (hE _ _ h)

theorem Follows.imp {S : α → β → Prop} {F : ε → ε' → Prop} (h : Follows R E x y)
    (hR : ∀ a b, R a b → S a b) (hE : ∀ e e', E e e' → F e e') : Follows S F x y := by
  intro limit s r s' hrun hend
  obtain ⟨r', hr, hm⟩ := h hrun hend
  exact ⟨r', hr.imp hR hE, hm⟩

/-- A steady draw follows itself up to any reflexive relations. -/
theorem Steady.follows {R : α → α → Prop} {E : ε → ε → Prop} {x : Draw σ ε α} (h : Steady x)
    (hR : ∀ a, R a a) (hE : ∀ e, E e e) : Follows R E (fun _ => x) x :=
  Follows.imp h (fun a _ hab => hab ▸ hR a) fun e _ hee => hee ▸ hE e

/-- A family that is followed from the next depth on is followed. -/
theorem Follows.of_succ (h : Follows R E (fun n => x (n + 1)) y) : Follows R E x y := by
  intro limit s r s' hrun hend
  obtain ⟨r', hr, m, hm⟩ := h hrun hend
  refine ⟨r', hr, m + 1, fun n hn limit hl => ?_⟩
  obtain ⟨n, rfl⟩ := Nat.exists_eq_add_of_le' (Nat.lt_of_lt_of_le (Nat.succ_pos m) hn)
  exact hm n (Nat.le_of_succ_le_succ hn) limit (Nat.le_of_succ_le hl)

/-- Only the draws of a family from some depth on matter. -/
theorem Follows.congr_from {x' : Nat → Draw σ ε α} (h : Follows R E x' y) (m : Nat)
    (heq : ∀ n ≥ m, x n = x' n) : Follows R E x y := by
  intro limit s r s' hrun hend
  obtain ⟨r', hr, k, hk⟩ := h hrun hend
  refine ⟨r', hr, max m k, fun n hn limit hl => ?_⟩
  rw [heq n (by omega)]
  exact hk n (by omega) limit (by omega)

/-! ## Single draws -/

theorem follows_pure {a : α} {b : β} (h : R a b) :
    Follows R E (fun _ => (pure a : Draw σ ε α)) (pure b) := by
  intro limit s r s' hrun _
  obtain ⟨rfl, rfl⟩ := Prod.mk.inj hrun
  exact ⟨.ok a, .value h, 0, fun _ _ _ _ => rfl⟩

theorem follows_fail {e : ε} {e' : ε'} (h : E e e') :
    Follows R E (fun _ => (fail e : Draw σ ε α)) (fail e') := by
  intro limit s r s' hrun _
  obtain ⟨rfl, rfl⟩ := Prod.mk.inj hrun
  exact ⟨.error (.failed e), .failure h, 0, fun _ _ _ _ => rfl⟩

/-- What never ends is followed by everything. -/
theorem follows_endless : Follows R E x (endless : Draw σ ε' β) := by
  intro limit s r s' hrun hend
  exact absurd (Prod.mk.inj hrun).1.symm hend

/-- Two results that were found without drawing and are related. -/
inductive SameEnd (R : α → β → Prop) (E : ε → ε' → Prop) : Except ε α → Except ε' β → Prop
  | ok {a : α} {b : β} (h : R a b) : SameEnd R E (.ok a) (.ok b)
  | error {e : ε} {e' : ε'} (h : E e e') : SameEnd R E (.error e) (.error e')

theorem follows_ofExcept {r : Except ε α} {r' : Except ε' β} (h : SameEnd R E r r') :
    Follows R E (fun _ => (ofExcept r : Draw σ ε α)) (ofExcept r') := by
  cases h with
  | ok h => exact follows_pure h
  | error h => exact follows_fail h

theorem steady_pure (a : α) : Steady (pure a : Draw σ ε α) := follows_pure rfl

theorem steady_fail (e : ε) : Steady (fail e : Draw σ ε α) := follows_fail rfl

theorem steady_ofExcept (r : Except ε α) : Steady (ofExcept r : Draw σ ε α) := by
  cases r with
  | ok a => exact steady_pure a
  | error e => exact steady_fail e

/-! ## Composite draws -/

/-- Draws that follow one another compose: a related value of the first parts
leads to second parts that follow one another. -/
theorem Follows.bind {f : Nat → α → Draw σ ε α'} {g : β → Draw σ ε' β'} (hx : Follows R E x y)
    (hf : ∀ a b, R a b → Follows R' E (fun n => f n a) (g b)) :
    Follows R' E (fun n => x n >>= f n) (y >>= g) := by
  intro limit s r s' hrun hend
  rcases hy : y.run limit s with ⟨_ | b, s₁⟩
  · rw [run_bind_of_error hy] at hrun
    obtain ⟨rfl, rfl⟩ := Prod.mk.inj hrun
    obtain ⟨_, hr, m, hm⟩ := hx hy (by simpa using hend)
    cases hr with
    | failure h => exact ⟨_, .failure h, m, fun n hn l hl => run_bind_of_error (hm n hn l hl)⟩
  · rw [run_bind_of_ok hy] at hrun
    obtain ⟨_, hr, m, hm⟩ := hx hy (by simp)
    cases hr with
    | @value a _ h =>
      obtain ⟨r', hr', m', hm'⟩ := hf a b h hrun hend
      refine ⟨r', hr', max m m', fun n hn l hl => ?_⟩
      rw [run_bind_of_ok (hm n (by omega) l (by omega))]
      exact hm' n (by omega) l (by omega)

theorem Steady.bind {x : Draw σ ε α} {f : α → Draw σ ε α'} (hx : Steady x)
    (hf : ∀ a, Steady (f a)) : Steady (x >>= f) :=
  Follows.bind hx fun a _ hab => hab ▸ hf a

/-- A draw that is told its limit: what it does under the other one's limit is
followed by what the family does in depth. -/
theorem follows_limit_bind {g : Nat → Draw σ ε' β} (h : ∀ k, Follows R E x (g k)) :
    Follows R E (fun _ => Draw.limit >>= x) (Draw.limit >>= g) := by
  intro limit s r s' hrun hend
  obtain ⟨r', hr, m, hm⟩ := h limit hrun hend
  exact ⟨r', hr, m, fun _ _ l hl => hm l hl l hl⟩

/-- Draws for related members of two lists, one after another. -/
theorem follows_sequence_map {γ δ : Type} {P : γ → δ → Prop} {f : Nat → γ → Draw σ ε α}
    {g : δ → Draw σ ε' β} (hf : ∀ c d, P c d → Follows R E (fun n => f n c) (g d)) :
    ∀ {cs : List γ} {ds : List δ}, List.Forall₂ P cs ds →
      Follows (List.Forall₂ R) E (fun n => sequence (cs.map (f n))) (sequence (ds.map g))
  | _, _, .nil => follows_pure .nil
  | _, _, .cons hcd hrest => by
      refine (hf _ _ hcd).bind fun a b hab => ?_
      refine (follows_sequence_map hf hrest).bind fun as bs habs => ?_
      exact follows_pure (.cons hab habs)

theorem steady_times {x : Draw σ ε α} (h : Steady x) : ∀ count, Steady (times count x)
  | 0 => steady_pure []
  | count + 1 => h.bind fun a => (steady_times h count).bind fun as => steady_pure (a :: as)

/-! ## Words -/

variable [Source σ]

theorem steady_word32 : Steady (word32 : Draw σ ε Nat) := by
  intro limit s r s' hrun _
  obtain ⟨rfl, rfl⟩ := Prod.mk.inj hrun
  exact ⟨_, .value rfl, 0, fun _ _ _ _ => rfl⟩

theorem steady_word64 : Steady (word64 : Draw σ ε Nat) := by
  intro limit s r s' hrun _
  obtain ⟨rfl, rfl⟩ := Prod.mk.inj hrun
  exact ⟨_, .value rfl, 0, fun _ _ _ _ => rfl⟩

theorem steady_bytes (count : Nat) : Steady (bytes count : Draw σ ε (List UInt8)) := by
  intro limit s r s' hrun _
  obtain ⟨rfl, rfl⟩ := Prod.mk.inj hrun
  exact ⟨_, .value rfl, 0, fun _ _ _ _ => rfl⟩

end Specimen.Draw
