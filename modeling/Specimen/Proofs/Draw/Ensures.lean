import Mathlib.Data.List.Forall2
import Specimen.Random.Draw

/-!
# What a draw ensures

`Ensures x Q E` is partial correctness of a draw: every value it ends with
satisfies `Q` and every failure it ends with satisfies `E`, for every source and
every limit. A draw that the limit cuts off satisfies anything, so a draw that
cannot fail is one that ensures `E` for every `E`, the empty one included.

The rules follow the ways draws are put together. `run_bind_ok` and
`run_bind_error` take a composite run apart once and for all; nothing that comes
later opens `Draw.bind` again.
-/

namespace Specimen.Draw

variable {σ ε ε' α β : Type}

/-! ## Runs of composite draws -/

@[simp] theorem run_pure (a : α) (limit : Nat) (s : σ) :
    (pure a : Draw σ ε α).run limit s = (.ok a, s) := rfl

@[simp] theorem run_fail (e : ε) (limit : Nat) (s : σ) :
    (fail e : Draw σ ε α).run limit s = (.error (.failed e), s) := rfl

@[simp] theorem run_endless (limit : Nat) (s : σ) :
    (endless : Draw σ ε α).run limit s = (.error .endless, s) := rfl

@[simp] theorem run_limit (limit : Nat) (s : σ) :
    (Draw.limit : Draw σ ε Nat).run limit s = (.ok limit, s) := rfl

/-- A run is known by its value, which can be compared when a source cannot. -/
theorem run_of_toOption {x : Draw σ ε α} {limit : Nat} {s : σ} {a : α}
    (h : (x.run limit s).1.toOption = some a) : x.run limit s = (.ok a, (x.run limit s).2) := by
  rcases hx : x.run limit s with ⟨_ | b, s₁⟩
  · rw [hx] at h
    cases h
  · rw [hx] at h
    cases h
    rfl

theorem run_bind_of_ok {x : Draw σ ε α} {f : α → Draw σ ε β} {limit : Nat} {s s₁ : σ} {a : α}
    (h : x.run limit s = (.ok a, s₁)) : (x >>= f).run limit s = (f a).run limit s₁ := by
  change x limit s = _ at h
  show x.bind f limit s = _
  unfold Draw.bind
  rw [h]
  rfl

theorem run_bind_of_error {x : Draw σ ε α} {f : α → Draw σ ε β} {limit : Nat} {s s₁ : σ}
    {stop : Stop ε} (h : x.run limit s = (.error stop, s₁)) :
    (x >>= f).run limit s = (.error stop, s₁) := by
  change x limit s = _ at h
  show x.bind f limit s = _
  unfold Draw.bind
  rw [h]

/-- A composite draw that ends with a value has passed through a value of its
first part. -/
theorem run_bind_ok {x : Draw σ ε α} {f : α → Draw σ ε β} {limit : Nat} {s s' : σ} {b : β} :
    (x >>= f).run limit s = (.ok b, s')
      ↔ ∃ a s₁, x.run limit s = (.ok a, s₁) ∧ (f a).run limit s₁ = (.ok b, s') := by
  rcases hx : x.run limit s with ⟨_ | a, s₁⟩
  · simp [run_bind_of_error hx]
  · rw [run_bind_of_ok hx]
    exact ⟨fun h => ⟨a, s₁, rfl, h⟩, by rintro ⟨_, _, ⟨⟩, h⟩; exact h⟩

/-- A composite draw stops in its first part or, past a value of that, in its
second. -/
theorem run_bind_error {x : Draw σ ε α} {f : α → Draw σ ε β} {limit : Nat} {s s' : σ}
    {stop : Stop ε} :
    (x >>= f).run limit s = (.error stop, s')
      ↔ x.run limit s = (.error stop, s')
        ∨ ∃ a s₁, x.run limit s = (.ok a, s₁) ∧ (f a).run limit s₁ = (.error stop, s') := by
  rcases hx : x.run limit s with ⟨_ | a, s₁⟩
  · simp [run_bind_of_error hx]
  · rw [run_bind_of_ok hx]
    exact ⟨fun h => .inr ⟨a, s₁, rfl, h⟩, by rintro (⟨⟨⟩⟩ | ⟨_, _, ⟨⟩, h⟩); exact h⟩

theorem bind_assoc {γ : Type} (x : Draw σ ε α) (f : α → Draw σ ε β) (g : β → Draw σ ε γ) :
    (x >>= f) >>= g = x >>= fun a => f a >>= g := by
  funext limit s
  show ((x >>= f) >>= g).run limit s = (x >>= fun a => f a >>= g).run limit s
  rcases hx : x.run limit s with ⟨_ | a, s₁⟩
  · rw [run_bind_of_error (run_bind_of_error hx), run_bind_of_error hx]
  · rw [run_bind_of_ok hx]
    rcases hf : (f a).run limit s₁ with ⟨_ | b, s₂⟩
    · rw [run_bind_of_error hf, run_bind_of_error ((run_bind_of_ok hx).trans hf)]
    · rw [run_bind_of_ok hf, run_bind_of_ok ((run_bind_of_ok hx).trans hf)]

/-! ## Partial correctness -/

/-- Every value of a draw satisfies `Q` and every failure satisfies `E`. -/
structure Ensures (x : Draw σ ε α) (Q : α → Prop) (E : ε → Prop) : Prop where
  value : ∀ {limit s a s'}, x.run limit s = (.ok a, s') → Q a
  failure : ∀ {limit s e s'}, x.run limit s = (.error (.failed e), s') → E e

variable {Q Q' : α → Prop} {R : β → Prop} {E E' : ε → Prop}

theorem Ensures.imp {x : Draw σ ε α} (h : Ensures x Q E) (hQ : ∀ a, Q a → Q' a)
    (hE : ∀ e, E e → E' e) : Ensures x Q' E' :=
  ⟨fun hrun => hQ _ (h.value hrun), fun hrun => hE _ (h.failure hrun)⟩

theorem Ensures.imp_value {x : Draw σ ε α} (h : Ensures x Q E) (hQ : ∀ a, Q a → Q' a) :
    Ensures x Q' E :=
  h.imp hQ fun _ he => he

theorem Ensures.and {x : Draw σ ε α} (h : Ensures x Q E) (h' : Ensures x Q' E) :
    Ensures x (fun a => Q a ∧ Q' a) E :=
  ⟨fun hrun => ⟨h.value hrun, h'.value hrun⟩, fun hrun => h.failure hrun⟩

theorem ensures_trivial {x : Draw σ ε α} : Ensures x (fun _ => True) fun _ => True :=
  ⟨fun _ => trivial, fun _ => trivial⟩

theorem ensures_pure {a : α} (h : Q a) : Ensures (pure a : Draw σ ε α) Q E where
  value hrun := by
    obtain ⟨⟨⟩, -⟩ := Prod.mk.inj hrun
    exact h
  failure hrun := by simp at hrun

theorem ensures_fail {e : ε} (h : E e) : Ensures (fail e : Draw σ ε α) Q E where
  value hrun := by simp at hrun
  failure hrun := by
    obtain ⟨⟨⟩, -⟩ := Prod.mk.inj hrun
    exact h

theorem ensures_endless : Ensures (endless : Draw σ ε α) Q E where
  value hrun := by simp at hrun
  failure hrun := by simp at hrun

theorem ensures_limit : Ensures (Draw.limit : Draw σ ε Nat) (fun _ => True) E where
  value _ := trivial
  failure hrun := by simp at hrun

theorem Ensures.bind {x : Draw σ ε α} {f : α → Draw σ ε β} (hx : Ensures x Q E)
    (hf : ∀ a, Q a → Ensures (f a) R E) : Ensures (x >>= f) R E where
  value hrun := by
    obtain ⟨a, s₁, ha, hb⟩ := run_bind_ok.mp hrun
    exact (hf a (hx.value ha)).value hb
  failure hrun := by
    rcases run_bind_error.mp hrun with h | ⟨a, s₁, ha, hb⟩
    · exact hx.failure h
    · exact (hf a (hx.value ha)).failure hb

/-- A value found without drawing is ensured by what is known of the value. -/
theorem ensures_ofExcept {r : Except ε α} (hQ : ∀ a, r = .ok a → Q a)
    (hE : ∀ e, r = .error e → E e) : Ensures (ofExcept r : Draw σ ε α) Q E := by
  cases r with
  | ok a => exact ensures_pure (hQ a rfl)
  | error e => exact ensures_fail (hE e rfl)

/-! ## Lists of draws -/

/-- The results of draws for the members of a list stand in the order of the
members, each with what its own draw ensures. -/
theorem ensures_sequence_map {γ : Type} {f : γ → Draw σ ε α} {P : γ → α → Prop} :
    ∀ {cs : List γ}, (∀ c ∈ cs, Ensures (f c) (P c) E) →
      Ensures (sequence (cs.map f)) (List.Forall₂ P cs) E
  | [], _ => ensures_pure .nil
  | c :: cs, h => by
      refine (h c (List.mem_cons_self ..)).bind fun a ha => ?_
      refine (ensures_sequence_map fun d hd => h d (List.mem_cons_of_mem _ hd)).bind
        fun as has => ?_
      exact ensures_pure (.cons ha has)

/-- Draws for the members of a list are made one after another, each from the state in which
the one before it has left the source. -/
theorem run_sequence_map {γ : Type} {f : γ → Draw σ ε α} {limit : Nat} :
    ∀ {cs : List γ} {as : List α} {s s' : σ}, (sequence (cs.map f)).run limit s = (.ok as, s') →
      as.length = cs.length ∧ ∃ states : Nat → σ, states 0 = s ∧ states as.length = s'
        ∧ ∀ i c a, cs[i]? = some c → as[i]? = some a →
            (f c).run limit (states i) = (.ok a, states (i + 1))
  | [], _, s, _, h => by
      cases h
      exact ⟨rfl, fun _ => s, rfl, rfl, fun i c a hc _ => by cases hc⟩
  | c :: cs, _, s, s', h => by
      obtain ⟨a, s₁, hfirst, h⟩ := run_bind_ok.mp h
      obtain ⟨as, s₂, hrest, h⟩ := run_bind_ok.mp h
      cases h
      obtain ⟨hlength, states, hstart, hend, hstates⟩ := run_sequence_map hrest
      refine ⟨by rw [List.length_cons, List.length_cons, hlength],
        fun i => i.casesOn s states, rfl, hend, fun i d b hd hb => ?_⟩
      cases i with
      | zero =>
          cases hd
          cases hb
          show (f c).run limit s = (.ok a, states 0)
          rw [hstart]
          exact hfirst
      | succ i => exact hstates i d b hd hb

/-- What every single draw ensures holds of all results. -/
theorem ensures_sequence_forall {γ : Type} {f : γ → Draw σ ε α} :
    ∀ {cs : List γ}, (∀ c ∈ cs, Ensures (f c) Q E) →
      Ensures (sequence (cs.map f)) (fun as => ∀ a ∈ as, Q a) E
  | [], _ => ensures_pure (List.forall_mem_nil Q)
  | c :: cs, h => by
      refine (h c (List.mem_cons_self ..)).bind fun a ha => ?_
      refine (ensures_sequence_forall fun d hd => h d (List.mem_cons_of_mem _ hd)).bind
        fun as has => ?_
      exact ensures_pure (List.forall_mem_cons.mpr ⟨ha, has⟩)

theorem ensures_times {x : Draw σ ε α} (h : Ensures x Q E) :
    ∀ count, Ensures (times count x) (fun as => as.length = count ∧ ∀ a ∈ as, Q a) E
  | 0 => ensures_pure ⟨rfl, by simp⟩
  | count + 1 => by
      refine h.bind fun a ha => (ensures_times h count).bind fun as ⟨hlen, has⟩ => ?_
      refine ensures_pure ⟨by simp [hlen], fun b hb => ?_⟩
      rcases List.mem_cons.mp hb with rfl | hb
      · exact ha
      · exact has b hb

end Specimen.Draw
