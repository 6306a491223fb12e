import Specimen.Pattern.Drawing
import Specimen.Proofs.Pattern.Building
import Specimen.Proofs.Random.Uniform

/-!
# Texts along an expression

A text that is drawn along an expression is matched by it as a whole, wherever it
stands: what is drawn requires no places, so nothing around it counts
(`Expr.draw_spans`). The draws of characters are biased in several ways, and all of
them end with a character of the class.
-/

namespace Specimen.Pattern

open Draw

variable {σ ε : Type} [Source σ] {E : ε → Prop}

/-! ## Characters -/

/-- The carry goes to the next number only if there is one. -/
theorem canonBelow_ensures (n : Nat) :
    Ensures (canonBelow n : Draw σ ε Nat) (fun k => 0 < n → n ≤ 0x1_0000_0000 → k < n) E := by
  refine word32_ensures.bind fun w hw => ?_
  have hproduct : 0 < n → w * n + n ≤ 0x1_0000_0000 * n := fun _ => by
    rw [← Nat.succ_mul]
    exact Nat.mul_le_mul_right n hw
  dsimp only
  split
  · refine word32_ensures.bind fun _ _ => ensures_pure fun hpos hn => ?_
    have hle := hproduct hpos
    split <;> omega
  · refine ensures_pure fun hpos hn => ?_
    have hle := hproduct hpos
    omega

theorem highBit_ensures : Ensures (highBit : Draw σ ε Bool) (fun _ => True) E :=
  word32_ensures.bind fun _ _ => ensures_pure trivial

theorem codePointIn_ensures (r : CharRange) :
    Ensures (codePointIn r : Draw σ ε Nat) (fun n => r.lo.toNat ≤ n ∧ n ≤ r.hi.toNat) E := by
  refine (canonBelow_ensures r.size).bind fun k hk => ensures_pure ?_
  have hlt : r.hi.toNat < 0x1_0000_0000 := r.hi.val.toNat_lt
  have hle := r.toNat_lo_le_hi
  unfold CharRange.size at hk
  have hbelow := hk (by omega) (by omega)
  omega

theorem codePointAmong_ensures (ranges : List CharRange) :
    Ensures (codePointAmong ranges : Draw σ ε Nat)
      (fun n => ∃ r ∈ ranges, r.lo.toNat ≤ n ∧ n ≤ r.hi.toNat) E := by
  refine (canonBelow_ensures _).bind fun i _ => ?_
  split
  · next r hr =>
      exact (codePointIn_ensures r).imp_value fun n hn => ⟨r, List.mem_of_getElem? hr, hn⟩
  · exact ensures_endless

theorem charAmong_ensures (ranges : List CharRange) :
    ∀ tries, Ensures (charAmong ranges tries : Draw σ ε Char)
      (fun c => ∃ r ∈ ranges, r.contains c = true) E
  | 0 => ensures_endless
  | tries + 1 => by
      refine (codePointAmong_ensures ranges).bind fun n ⟨r, hr, hn⟩ => ?_
      split
      · next hvalid =>
          have htoNat : (Char.ofNat n).toNat = n := by
            unfold Char.ofNat
            rw [dif_pos hvalid]
            rfl
          refine ensures_pure ⟨r, hr, CharRange.contains_iff.mpr ?_⟩
          rw [htoNat]
          exact hn
      · exact charAmong_ensures ranges tries

theorem specialChar_ensures (cls : CharClass) :
    Ensures (specialChar cls : Draw σ ε (Option Char))
      (fun c? => ∀ c, c? = some c → cls.contains c = true) E := by
  refine highBit_ensures.bind fun high _ => ?_
  split
  · refine (canonBelow_ensures _).bind fun i _ => ensures_pure fun c hc => ?_
    exact (Option.filter_eq_some_iff.mp hc).2
  · exact ensures_pure fun c hc => nomatch hc

theorem usualChar_ensures (cls : CharClass) :
    Ensures (usualChar cls : Draw σ ε (Option Char))
      (fun c? => ∀ c, c? = some c → cls.contains c = true) E := by
  refine highBit_ensures.bind fun high _ => ?_
  split
  · refine (codePointAmong_ensures _).bind fun n _ => ensures_pure fun c hc => ?_
    exact (Option.filter_eq_some_iff.mp hc).2
  · exact ensures_pure fun c hc => nomatch hc

/-- Some ranges count more than once, but no range is added. -/
theorem drawnRanges_subset (cls : CharClass) : ∀ r ∈ drawnRanges cls, r ∈ cls.ranges := by
  unfold drawnRanges
  split
  · split
    · next low high hranges =>
        intro r hr
        rw [hranges]
        rcases List.mem_cons.mp hr with rfl | hr
        · exact List.mem_cons_self
        · rw [(List.mem_replicate.mp hr).2]
          exact List.mem_cons_of_mem _ List.mem_cons_self
    · exact fun r hr => hr
  · exact fun r hr => hr

/-- Whichever way a character comes, it is in the class. -/
theorem charOf_ensures (cls : CharClass) :
    Ensures (charOf cls : Draw σ ε Char) (fun c => cls.contains c = true) E := by
  refine (specialChar_ensures cls).bind fun special hspecial => ?_
  cases special with
  | some c => exact ensures_pure (hspecial c rfl)
  | none =>
      refine (usualChar_ensures cls).bind fun usual husual => ?_
      cases usual with
      | some c => exact ensures_pure (husual c rfl)
      | none =>
          refine ensures_limit.bind fun tries _ => ?_
          refine (charAmong_ensures _ tries).imp_value fun c ⟨r, hr, hc⟩ => ?_
          exact CharClass.contains_iff.mpr ⟨r, drawnRanges_subset cls r hr, hc⟩

/-! ## Expressions -/

namespace Expr

/-- An expression matches a text as a whole, wherever it stands. -/
def Spans (e : Expr) (chars : List Char) : Prop :=
  ∀ (text : Array Char) (i : Nat), standsAt text i chars = true →
    e.Matches text i (i + chars.length)

/-- Expressions one after another match a text as a whole, wherever it stands. -/
def SpansAll (es : List Expr) (chars : List Char) : Prop :=
  ∀ (text : Array Char) (i : Nat), standsAt text i chars = true →
    MatchesAll text es i (i + chars.length)

theorem spansAll_cons {e : Expr} {rest : List Expr} {front back : List Char}
    (hfront : e.Spans front) (hback : SpansAll rest back) :
    SpansAll (e :: rest) (front ++ back) := by
  intro text i hstands
  rw [standsAt_append, Bool.and_eq_true] at hstands
  unfold MatchesAll
  refine ⟨_, hfront text i hstands.1, ?_⟩
  rw [List.length_append, ← Nat.add_assoc]
  exact hback text _ hstands.2

/-- A repetition matches as many pieces as it may, put together. -/
theorem steps_flatten {body : Expr} {text : Array Char} : ∀ {pieces : List (List Char)} {i : Nat},
    (∀ piece ∈ pieces, body.Spans piece) → standsAt text i pieces.flatten = true →
    Steps (body.Matches text) pieces.length i (i + pieces.flatten.length)
  | [], _, _, _ => rfl
  | piece :: rest, i, h, hstands => by
      rw [List.flatten_cons, standsAt_append, Bool.and_eq_true] at hstands
      refine ⟨_, h piece List.mem_cons_self text i hstands.1, ?_⟩
      rw [List.flatten_cons, List.length_append, ← Nat.add_assoc]
      exact steps_flatten (fun p hp => h p (List.mem_cons_of_mem _ hp)) hstands.2

theorem discard_ensures : ∀ count, Ensures (discard count : Draw σ ε Unit) (fun _ => True) E
  | 0 => ensures_pure trivial
  | count + 1 => word32_ensures.bind fun _ _ => discard_ensures count

/-- The counts that are drawn are those that the repetition allows. -/
theorem more_le_of_countRange {min more : Nat} {max : Option Nat}
    (h : more < (countRange min max).2 - (countRange min max).1 + 1) :
    ∀ greatest, max = some greatest → more ≤ greatest - min := by
  rintro greatest rfl
  exact Nat.le_of_lt_succ h

theorem countRange_fst (min : Nat) (max : Option Nat) : (countRange min max).1 = min := by
  unfold countRange
  split
  · rfl
  · split <;> rfl

theorem checkAllDrawable_cons {e : Expr} {rest : List Expr}
    (h : checkAllDrawable (e :: rest) = .ok ()) :
    e.checkDrawable = .ok () ∧ checkAllDrawable rest = .ok () := by
  unfold checkAllDrawable at h
  cases he : e.checkDrawable with
  | ok _ =>
      rw [he] at h
      exact ⟨rfl, h⟩
  | error fault =>
      rw [he] at h
      cases h

mutual

/-- A text drawn along an expression is matched by it. -/
theorem draw_spans : ∀ {e : Expr}, e.checkDrawable = .ok () →
    Ensures (e.draw : Draw σ ε (List Char)) e.Spans E
  | .empty, _ => ensures_pure fun _ _ _ => by
      unfold Matches
      rfl
  | .text chars, _ => ensures_pure fun _ _ hstands => by
      unfold Matches
      exact ⟨hstands, rfl⟩
  | .charClass cls, _ => by
      refine (charOf_ensures cls).bind fun c hc => ensures_pure fun text i hstands => ?_
      unfold standsAt at hstands
      rw [Bool.and_eq_true, beq_iff_eq] at hstands
      unfold Matches
      exact ⟨⟨c, hstands.1, hc⟩, rfl⟩
  | .look l, h => by cases h
  | .repetition min max greedy body, h => by
      have hbody : body.checkDrawable = .ok () := by
        unfold checkDrawable at h
        cases hcheck : body.checkDrawable with
        | ok _ => rfl
        | error fault =>
            rw [hcheck] at h
            cases h
      unfold draw
      refine (belowExact_ensures word32_ensures).bind fun more hmore => ?_
      refine (ensures_times (draw_spans hbody) _).bind fun pieces ⟨hlength, hpieces⟩ => ?_
      refine ensures_pure fun text i hstands => ?_
      have hlength : pieces.length = (countRange min max).1 + more := hlength
      have hsteps := steps_flatten hpieces hstands
      rw [hlength, countRange_fst] at hsteps
      unfold Matches
      exact ⟨more, more_le_of_countRange hmore, hsteps⟩
  | .capture body, h => by
      unfold checkDrawable at h
      unfold draw
      refine (draw_spans h).imp_value fun chars hchars text i hstands => ?_
      unfold Matches
      exact hchars text i hstands
  | .concat parts, h => by
      unfold checkDrawable at h
      unfold draw
      refine (drawAll_spans h).imp_value fun chars hchars text i hstands => ?_
      unfold Matches
      exact hchars text i hstands
  | .alternatives branches, h => by
      unfold checkDrawable at h
      unfold draw
      refine (belowExact_ensures word64_ensures).bind fun k hk => ?_
      refine (discard_ensures _).bind fun _ _ => ?_
      refine (drawNth_spans h hk).imp_value fun chars ⟨e, he, hchars⟩ text i hstands => ?_
      unfold Matches
      exact matchesAny_iff.mpr ⟨e, he, hchars text i hstands⟩

theorem drawAll_spans : ∀ {es : List Expr}, checkAllDrawable es = .ok () →
    Ensures (drawAll es : Draw σ ε (List Char)) (SpansAll es) E
  | [], _ => ensures_pure fun _ _ _ => by
      unfold MatchesAll
      rfl
  | e :: rest, h => by
      obtain ⟨he, hrest⟩ := checkAllDrawable_cons h
      refine (draw_spans he).bind fun front hfront => ?_
      refine (drawAll_spans hrest).bind fun back hback => ?_
      exact ensures_pure (spansAll_cons hfront hback)

theorem drawNth_spans : ∀ {es : List Expr} {k : Nat}, checkAllDrawable es = .ok () →
    k < es.length →
    Ensures (drawNth k es : Draw σ ε (List Char)) (fun chars => ∃ e ∈ es, e.Spans chars) E
  | [], _, _, hk => nomatch hk
  | e :: rest, k, h, hk => by
      obtain ⟨he, hrest⟩ := checkAllDrawable_cons h
      cases k with
      | zero => exact (draw_spans he).imp_value fun chars hchars => ⟨e, List.mem_cons_self, hchars⟩
      | succ k =>
          refine (drawNth_spans hrest (Nat.lt_of_succ_lt_succ hk)).imp_value ?_
          rintro chars ⟨f, hf, hchars⟩
          exact ⟨f, List.mem_cons_of_mem _ hf, hchars⟩

end

end Expr

end Specimen.Pattern
