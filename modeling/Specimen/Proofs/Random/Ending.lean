import Mathlib.Logic.Relation
import Specimen.Proofs.Random.Pick
import Specimen.Proofs.Random.Words

/-!
# Which draws end

A choice from a list ends unless its source *stalls*: as many words in a row as a loop may go
round are of no use to it. A word is of no use where its low part is refused, and, where
few positions are picked among very many, also where it leads to a position that is taken
already. That is all that can go on for ever, so `Ends` says of a draw how it can fail to end,
next to `Ensures`, which says what it ends with (`Ensures.run_cases`).

The loops that redraw are the only ones that look at their limit. Everything else is put
together by `Ends.bind`, in which the words that the first part has taken are skipped.
-/

namespace Specimen.Draw

variable {σ ε α β : Type} [Source σ]

/-! ## Stalling sources -/

/-- A source goes from one state to another as words are taken. -/
def Leads : σ → σ → Prop :=
  Relation.ReflTransGen fun src src' => src' = (next32 src).2 ∨ src' = (next64 src).2

/-- A word is of no use where a position below `n` is drawn that is not taken yet. -/
def Useless (n : Nat) (taken : List Nat) (w : Nat) : Prop :=
  Refused 32 n w ∨ w * n / 2 ^ 32 ∈ taken

/-- At some later state all words that the limit allows are of no use to a choice among at
most `most`. Positions that are taken count only where few of very many are picked. -/
inductive Stalls (most limit : Nat) (src : σ) : Prop
  | refused32 {src' : σ} {n : Nat} (hleads : Leads src src') (hn : n ≤ most)
      (hall : Throughout next32 (Refused 32 n) limit src')
  | refused64 {src' : σ} {n : Nat} (hleads : Leads src src') (hn : n ≤ most)
      (hall : Throughout next64 (Refused 64 n) limit src')
  | taken {src' : σ} {n : Nat} {taken : List Nat} (hleads : Leads src src') (hn : n ≤ most)
      (hmany : 270 * 163 ≤ n) (hfew : 270 * taken.length < n)
      (hall : Throughout next32 (Useless n taken) limit src')

theorem leads_next32 (src : σ) : Leads src (next32 src).2 := .single (.inl rfl)

theorem leads_next64 (src : σ) : Leads src (next64 src).2 := .single (.inr rfl)

/-- What a source does later it does. -/
theorem Stalls.of_leads {most limit : Nat} {src src' : σ} (hleads : Leads src src')
    (h : Stalls most limit src') : Stalls most limit src := by
  cases h with
  | refused32 hlater hn hall => exact .refused32 (hleads.trans hlater) hn hall
  | refused64 hlater hn hall => exact .refused64 (hleads.trans hlater) hn hall
  | taken hlater hn hmany hfew hall => exact .taken (hleads.trans hlater) hn hmany hfew hall

/-! ## Draws that end -/

/-- A draw takes words and nothing else, and it ends unless the source stalls where one of at
most `most` is chosen. -/
structure Ends (most : Nat) (x : Draw σ ε α) : Prop where
  leads : ∀ limit src, Leads src (x.run limit src).2
  stalls : ∀ limit src rest, x.run limit src = (.error .endless, rest) → Stalls most limit src

variable {most : Nat} {Q : α → Prop} {E : ε → Prop}

theorem ends_pure (a : α) : Ends most (pure a : Draw σ ε α) where
  leads _ _ := .refl
  stalls _ _ _ hrun := by simp at hrun

theorem Ends.bind {x : Draw σ ε α} {f : α → Draw σ ε β} (hx : Ends most x)
    (hQ : Ensures x Q E) (hf : ∀ a, Q a → Ends most (f a)) : Ends most (x >>= f) := by
  constructor
  · intro limit src
    have hleads := hx.leads limit src
    rcases hrun : x.run limit src with ⟨_ | a, src'⟩
    · rw [run_bind_of_error hrun]
      rwa [hrun] at hleads
    · rw [run_bind_of_ok hrun]
      rw [hrun] at hleads
      exact hleads.trans ((hf a (hQ.value hrun)).leads limit src')
  · intro limit src rest hrun
    rcases run_bind_error.mp hrun with hfirst | ⟨a, src', hfirst, hsecond⟩
    · exact hx.stalls limit src rest hfirst
    · have hleads := hx.leads limit src
      rw [hfirst] at hleads
      exact .of_leads hleads ((hf a (hQ.value hfirst)).stalls limit src' rest hsecond)

/-- The second part may depend on any value of the first. -/
theorem Ends.bind_all {x : Draw σ ε α} {f : α → Draw σ ε β} (hx : Ends most x)
    (hf : ∀ a, Ends most (f a)) : Ends most (x >>= f) :=
  hx.bind ensures_trivial fun a _ => hf a

/-- What looks at the limit is judged at every limit. -/
theorem ends_limit_bind {f : Nat → Draw σ ε α}
    (hleads : ∀ limit src, Leads src ((f limit).run limit src).2)
    (hstalls : ∀ limit src rest, (f limit).run limit src = (.error .endless, rest) →
      Stalls most limit src) : Ends most (Draw.limit >>= f) where
  leads limit src := by
    rw [run_bind_of_ok (run_limit limit src)]
    exact hleads limit src
  stalls limit src rest hrun := by
    rw [run_bind_of_ok (run_limit limit src)] at hrun
    exact hstalls limit src rest hrun

/-- A draw without failures ends with what it ensures, or its source stalls. -/
theorem Ensures.run_cases {x : Draw σ ε α} (h : Ensures x Q fun _ => False) (hends : Ends most x)
    (limit : Nat) (src : σ) :
    (∃ a rest, x.run limit src = (.ok a, rest) ∧ Q a)
      ∨ Stalls most limit src ∧ ∃ rest, x.run limit src = (.error .endless, rest) := by
  rcases hrun : x.run limit src with ⟨stop | a, rest⟩
  · cases stop with
    | failed e => exact (h.failure hrun).elim
    | endless => exact .inr ⟨hends.stalls limit src rest hrun, rest, rfl⟩
  · exact .inl ⟨a, rest, rfl, h.value hrun⟩

/-! ## Numbers below a bound -/

section Below

variable {next : σ → Nat × σ} {word : Draw σ ε Nat} {bits n : Nat} {accept : Nat → Bool}

theorem redraw_leads (hword : IsWord next word) (hnext : ∀ src, Leads src (next src).2)
    (limit : Nat) : ∀ (tries : Nat) (src : σ),
      Leads src ((redraw bits n accept word tries).run limit src).2
  | 0, _ => .refl
  | tries + 1, src => by
      unfold redraw
      rw [run_bind_of_ok (hword limit src)]
      split
      · exact hnext src
      · exact (hnext src).trans (redraw_leads hword hnext limit tries _)

theorem below_ends (hword : IsWord next word) (hnext : ∀ src, Leads src (next src).2)
    (hstalls : ∀ limit src, Throughout next (Refused bits n) limit src → Stalls most limit src) :
    Ends most (below bits word n) := by
  unfold below
  split
  · constructor
    · intro limit src
      rw [hword limit src]
      exact hnext src
    · intro limit src rest hrun
      rw [hword limit src] at hrun
      cases hrun
  · refine ends_limit_bind (fun limit src => redraw_leads hword hnext limit limit src)
      fun limit src rest hrun => ?_
    rcases redraw_cases hword limit limit src with ⟨k, rest', hdrawn⟩ | ⟨hrejected, -⟩
    · rw [hdrawn] at hrun
      cases hrun
    · exact hstalls limit src (hrejected.imp fun w hw => isRejected_below.mp hw)

end Below

theorem below32_ends {n : Nat} (hn : n ≤ most) : Ends most (below32 n : Draw σ ε Nat) :=
  below_ends isWord_word32 leads_next32 fun _ _ hall => .refused32 .refl hn hall

theorem below64_ends {n : Nat} (hn : n ≤ most) : Ends most (below64 n : Draw σ ε Nat) :=
  below_ends isWord_word64 leads_next64 fun _ _ hall => .refused64 .refl hn hall

theorem countBetween_ends {a b : Nat} (h : max a b - min a b + 1 ≤ most) :
    Ends most (countBetween a b : Draw σ ε Nat) :=
  (below64_ends h).bind_all fun _ => ends_pure _

/-! ## One item -/

theorem position_ends {n : Nat} (hn : n ≤ most) : Ends most (position n : Draw σ ε Nat) := by
  unfold position
  split
  · exact below32_ends hn
  · exact below64_ends hn

theorem element_ends {items : List α} (h : items.length ≤ most) :
    Ends most (element items : Draw σ ε (Option α)) := by
  cases items with
  | nil => exact ends_pure none
  | cons item rest => exact (position_ends h).bind_all fun _ => ends_pure _

/-! ## Distinct positions -/

theorem distinctGrowing_ends : ∀ (tops chosen : List Nat), (∀ top ∈ tops, top < most) →
    Ends most (distinctGrowing chosen tops : Draw σ ε (List Nat))
  | [], chosen, _ => ends_pure chosen
  | top :: rest, chosen, h => by
      refine (below32_ends (h top List.mem_cons_self)).bind_all fun t => ?_
      exact distinctGrowing_ends rest _ fun top' htop' => h top' (List.mem_cons_of_mem _ htop')

theorem distinctSwapping_ends : ∀ (count i : Nat) (places : Array Nat), places.size ≤ most →
    Ends most (distinctSwapping places i count : Draw σ ε (Array Nat))
  | 0, _, places, _ => ends_pure places
  | count + 1, i, places, h => by
      refine (below32_ends ((Nat.sub_le ..).trans h)).bind_all fun offset => ?_
      exact distinctSwapping_ends count (i + 1) _ (by rwa [Array.size_swapIfInBounds])

theorem discardShuffle_ends : ∀ k, k ≤ most → Ends most (discardShuffle k : Draw σ ε Unit)
  | 0, _ => ends_pure ()
  | k + 1, h => by
      unfold discardShuffle
      split
      · exact ends_pure ()
      · exact (below32_ends h).bind_all fun _ => discardShuffle_ends k (by omega)

/-- Fewer low parts are refused where positions are drawn again and again. -/
theorem refused_of_isRejected {n w : Nat} (hn : 0 < n)
    (h : IsRejected 32 n (fun low => low < 0x1_0000_0000 - (0x1_0000_0000 - n) % n) w) :
    Refused 32 n w := by
  have hlow : 2 ^ 32 - (2 ^ 32 - n) % n ≤ w * n % 2 ^ 32 :=
    Nat.le_of_not_lt (of_decide_eq_false h)
  have hword : w * n % 2 ^ 32 < 2 ^ 32 := Nat.mod_lt _ (by decide)
  have hsmall : n < 2 ^ 32 := by
    by_contra hlarge
    rw [Nat.sub_eq_zero_of_le (Nat.le_of_not_lt hlarge), Nat.zero_mod] at hlow
    omega
  -- what is accepted here goes up to the greatest multiple of `n`, and the zone up to some
  have hgreatest : 2 ^ 32 - (2 ^ 32 - n) % n = n * (2 ^ 32 / n) := by
    have hrest : (2 ^ 32 - n) % n = 2 ^ 32 % n := by
      conv_rhs => rw [← Nat.sub_add_cancel hsmall.le, Nat.add_mod_right]
    have hparts := Nat.div_add_mod (2 ^ 32) n
    omega
  have hlog : n.log2 ≤ 31 := Nat.le_of_lt_succ ((Nat.log2_lt hn.ne').mpr hsmall)
  have hzone : n * 2 ^ (32 - 1 - n.log2) ≤ n * (2 ^ 32 / n) := by
    refine Nat.mul_le_mul_left n ((Nat.le_div_iff_mul_le hn).mpr ?_)
    calc 2 ^ (32 - 1 - n.log2) * n ≤ 2 ^ (32 - 1 - n.log2) * 2 ^ (n.log2 + 1) :=
          Nat.mul_le_mul_left _ (Nat.lt_log2_self).le
      _ = 2 ^ 32 := by rw [← Nat.pow_add]; congr 1; omega
  have hpos : 0 < n * 2 ^ (32 - 1 - n.log2) := Nat.mul_pos hn (Nat.two_pow_pos _)
  unfold Refused zone
  rw [Nat.shiftLeft_eq]
  omega

theorem freshBelow_leads (n : Nat) (chosen : List Nat) (limit : Nat) :
    ∀ (tries : Nat) (src : σ),
      Leads src ((freshBelow n chosen tries : Draw σ ε Nat).run limit src).2
  | 0, _ => .refl
  | tries + 1, src => by
      have hleads : Leads src ((redraw 32 n
          (fun low => low < 0x1_0000_0000 - (0x1_0000_0000 - n) % n) word32 limit
            : Draw σ ε Nat).run limit src).2 :=
        redraw_leads isWord_word32 leads_next32 limit limit src
      unfold freshBelow
      rw [run_bind_of_ok (run_limit limit src)]
      rcases hrun : (redraw 32 n (fun low => low < 0x1_0000_0000 - (0x1_0000_0000 - n) % n)
        word32 limit : Draw σ ε Nat).run limit src with ⟨_ | t, src'⟩ <;> rw [hrun] at hleads
      · rw [run_bind_of_error hrun]
        exact hleads
      · rw [run_bind_of_ok hrun]
        split
        · exact hleads.trans (freshBelow_leads n chosen limit tries src')
        · exact hleads

/-- Positions are drawn until one is new: if none is found, either one of the draws found
nothing but refused words, or every word was of no use. -/
theorem freshBelow_endless {n : Nat} (hn : 0 < n) (chosen : List Nat) (limit : Nat) :
    ∀ (tries : Nat) (src rest : σ),
      (freshBelow n chosen tries : Draw σ ε Nat).run limit src = (.error .endless, rest) →
        (∃ src', Leads src src' ∧ Throughout next32 (Refused 32 n) limit src')
          ∨ Throughout next32 (Useless n chosen) tries src
  | 0, _, _, _ => .inr trivial
  | tries + 1, src, rest, hrun => by
      have hleads : Leads src ((redraw 32 n
          (fun low => low < 0x1_0000_0000 - (0x1_0000_0000 - n) % n) word32 limit
            : Draw σ ε Nat).run limit src).2 :=
        redraw_leads isWord_word32 leads_next32 limit limit src
      unfold freshBelow at hrun
      rw [run_bind_of_ok (run_limit limit src)] at hrun
      rcases run_bind_error.mp hrun with hfirst | ⟨t, src', hfirst, hsecond⟩
      · rcases redraw_cases isWord_word32 limit limit src with ⟨k, rest', hdrawn⟩ | ⟨hrejected, -⟩
        · rw [hdrawn] at hfirst
          cases hfirst
        · exact .inl ⟨src, .refl, hrejected.imp fun w hw => refused_of_isRejected hn hw⟩
      · rw [hfirst] at hleads
        by_cases htaken : t ∈ chosen
        · rw [if_pos htaken] at hsecond
          rcases freshBelow_endless hn chosen limit tries src' rest hsecond with
            ⟨src'', hlater, hall⟩ | hall
          · exact .inl ⟨src'', hleads.trans hlater, hall⟩
          · refine .inr (redraw_useless isWord_word32 (fun w hw => ?_) (fun w hw => ?_) htaken hall
              hfirst)
            · exact .inl (refused_of_isRejected hn hw)
            · exact .inr hw
        · rw [if_neg htaken] at hsecond
          cases hsecond

theorem freshBelow_ends {n : Nat} {chosen : List Nat} (hn : n ≤ most) (hmany : 270 * 163 ≤ n)
    (hfew : 270 * chosen.length < n) :
    Ends most (Draw.limit >>= freshBelow n chosen : Draw σ ε Nat) := by
  refine ends_limit_bind (fun limit src => freshBelow_leads n chosen limit limit src)
    fun limit src rest hrun => ?_
  rcases freshBelow_endless (by omega) chosen limit limit src rest hrun with
    ⟨src', hleads, hall⟩ | hall
  · exact .refused32 hleads hn hall
  · exact .taken .refl hn hmany hfew hall

theorem distinctRetrying_ends {n : Nat} (hn : n ≤ most) (hmany : 270 * 163 ≤ n) :
    ∀ (count : Nat) (chosen : List Nat), 270 * (chosen.length + count) ≤ n →
      Ends most (distinctRetrying n chosen count : Draw σ ε (List Nat))
  | 0, chosen, _ => ends_pure chosen
  | count + 1, chosen, hfew => by
      have hends : Ends most ((Draw.limit >>= freshBelow n chosen) >>= fun t =>
          distinctRetrying n (t :: chosen) count : Draw σ ε (List Nat)) := by
        refine (freshBelow_ends hn hmany (by omega)).bind_all fun t => ?_
        apply distinctRetrying_ends hn hmany count
        rw [List.length_cons]
        omega
      rwa [bind_assoc] at hends

theorem retrying_of_selection {n k : Nat} (h : Selection.of n k = .retrying) :
    163 ≤ k ∧ 270 * k ≤ n := by
  unfold Selection.of at h
  split at h
  · split at h <;> cases h
  · split at h
    · cases h
    · omega

theorem distinct_ends {n k : Nat} (hn : n ≤ most) (hk : k ≤ n) :
    Ends most (distinct n k : Draw σ ε (List Nat)) := by
  unfold distinct
  cases hselection : Selection.of n k with
  | growing =>
      have htops : ∀ top ∈ List.range' (n - k) k, top < most := by
        intro top htop
        rw [List.mem_range'_1] at htop
        omega
      refine (distinctGrowing_ends _ [] htops).bind_all fun chosen => ?_
      dsimp only
      split
      · exact (discardShuffle_ends k (hk.trans hn)).bind_all fun _ => ends_pure chosen
      · exact ends_pure chosen
  | swapping =>
      refine (distinctSwapping_ends k 0 (Array.range n) ?_).bind_all fun _ => ends_pure _
      rwa [Array.size_range]
  | retrying =>
      obtain ⟨hmany, hfew⟩ := retrying_of_selection hselection
      exact distinctRetrying_ends hn (by omega) k [] (by simpa using hfew)

/-! ## Several items -/

theorem elements_ends {items : List α} (h : items.length ≤ most) (count : Nat) :
    Ends most (elements items count : Draw σ ε (List α)) :=
  (distinct_ends h (Nat.min_le_right ..)).bind_all fun _ => ends_pure _

theorem subset_ends {items : List α} (h : items.length ≤ most) :
    Ends most (subset items : Draw σ ε (List α)) := by
  cases items with
  | nil => exact ends_pure []
  | cons item rest => exact (below64_ends h).bind_all fun _ => elements_ends h _

end Specimen.Draw
