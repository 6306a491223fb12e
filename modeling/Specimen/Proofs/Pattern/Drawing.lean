import Specimen.Pattern.Drawing
import Specimen.Proofs.Random.Pick

/-!
# Draws from a pattern

What a pattern draws does not depend on the source but for the key of the stream
that its words come from. `Pattern.CanDraw` collects the texts over all keys, so
it can be spoken of without any source at hand.

The draws are steady: the two loops that look at the limit, the one that redraws
numbers and the one that redraws code points, stop at their first success.
-/

namespace Specimen.Pattern

open Draw

/-- A text that comes out of a pattern for some key of its stream. -/
def CanDraw (p : Pattern) (text : String) : Prop :=
  ∃ (limit : Nat) (key : ChaCha) (chars : List Char) (rest : ChaCha),
    (p.expr.draw : Draw ChaCha SchemaError (List Char)).run limit key = (.ok chars, rest)
      ∧ text = .ofList chars

variable {σ : Type} [Source σ]

theorem onFreshStream_ensures {x : Draw ChaCha SchemaError (List Char)} :
    Ensures (onFreshStream x : Draw σ SchemaError (List Char))
      (fun chars => ∃ limit key rest, x.run limit key = (.ok chars, rest)) fun _ => True where
  value {limit s chars s'} hrun := by
    obtain ⟨key, s₁, -, hrun⟩ := run_bind_ok.mp hrun
    obtain ⟨_, s₂, -, hrun⟩ := run_bind_ok.mp hrun
    split at hrun
    · next a rest hx =>
        obtain ⟨⟨⟩, -⟩ := Prod.mk.inj hrun
        exact ⟨_, _, _, hx⟩
    · simp at hrun
    · simp at hrun
  failure _ := trivial

theorem draw_ensures (p : Pattern) :
    Ensures (p.draw : Draw σ SchemaError String) p.CanDraw fun _ => True :=
  onFreshStream_ensures.bind fun chars ⟨limit, key, rest, hrun⟩ =>
    ensures_pure ⟨limit, key, chars, rest, hrun, rfl⟩

/-! ## Steadiness -/

variable {ε : Type}

theorem steady_canonBelow (n : Nat) : Steady (canonBelow n : Draw σ ε Nat) := by
  refine steady_word32.bind fun w => ?_
  dsimp only
  split
  · exact steady_word32.bind fun _ => steady_pure _
  · exact steady_pure _

theorem steady_highBit : Steady (highBit : Draw σ ε Bool) :=
  steady_word32.bind fun _ => steady_pure _

theorem steady_codePointIn (r : CharRange) : Steady (codePointIn r : Draw σ ε Nat) :=
  (steady_canonBelow _).bind fun _ => steady_pure _

theorem steady_codePointAmong (ranges : List CharRange) :
    Steady (codePointAmong ranges : Draw σ ε Nat) := by
  refine (steady_canonBelow _).bind fun i => ?_
  split
  · exact steady_codePointIn _
  · exact follows_endless

theorem steady_charAmong (ranges : List CharRange) :
    ∀ tries, Follows (· = ·) (· = ·) (charAmong ranges : Nat → Draw σ ε Char)
      (charAmong ranges tries)
  | 0 => follows_endless
  | tries + 1 => by
      refine .of_succ (Follows.bind (steady_codePointAmong ranges) fun n _ hn => ?_)
      subst hn
      split
      · exact steady_pure _
      · exact steady_charAmong ranges tries

theorem steady_specialChar (cls : CharClass) :
    Steady (specialChar cls : Draw σ ε (Option Char)) := by
  refine steady_highBit.bind fun high => ?_
  split
  · exact (steady_canonBelow _).bind fun _ => steady_pure _
  · exact steady_pure none

theorem steady_usualChar (cls : CharClass) : Steady (usualChar cls : Draw σ ε (Option Char)) := by
  refine steady_highBit.bind fun high => ?_
  split
  · exact (steady_codePointAmong _).bind fun _ => steady_pure _
  · exact steady_pure none

theorem steady_charOf (cls : CharClass) : Steady (charOf cls : Draw σ ε Char) := by
  refine (steady_specialChar cls).bind fun special => ?_
  split
  · exact steady_pure _
  · refine (steady_usualChar cls).bind fun usual => ?_
    split
    · exact steady_pure _
    · exact follows_limit_bind (steady_charAmong (drawnRanges cls))

theorem steady_discard : ∀ count, Steady (discard count : Draw σ ε Unit)
  | 0 => steady_pure ()
  | count + 1 => steady_word32.bind fun _ => steady_discard count

mutual

theorem Expr.steady_draw : ∀ e : Expr, Steady (e.draw : Draw σ ε (List Char))
  | .empty => steady_pure []
  | .text chars => steady_pure chars
  | .charClass cls => (steady_charOf cls).bind fun _ => steady_pure _
  | .look _ => steady_pure []
  | .repetition _ _ _ body =>
      (steady_belowExact steady_word32).bind fun _ =>
        (steady_times (Expr.steady_draw body) _).bind fun _ => steady_pure _
  | .capture body => Expr.steady_draw body
  | .concat parts => Expr.steady_drawAll parts
  | .alternatives branches =>
      (steady_belowExact steady_word64).bind fun k =>
        (steady_discard _).bind fun _ => Expr.steady_drawNth k branches

theorem Expr.steady_drawAll : ∀ parts : List Expr,
    Steady (Expr.drawAll parts : Draw σ ε (List Char))
  | [] => steady_pure []
  | e :: rest =>
      (Expr.steady_draw e).bind fun _ => (Expr.steady_drawAll rest).bind fun _ => steady_pure _

theorem Expr.steady_drawNth : ∀ (k : Nat) (branches : List Expr),
    Steady (Expr.drawNth k branches : Draw σ ε (List Char))
  | _, [] => steady_pure []
  | 0, e :: _ => Expr.steady_draw e
  | k + 1, _ :: rest => Expr.steady_drawNth k rest

end

/-- A fresh stream is read under the limit of the outer draw. -/
theorem steady_onFreshStream {α : Type} {x : Draw ChaCha ε α} (hx : Steady x) :
    Steady (onFreshStream x : Draw σ ε α) := by
  refine (steady_bytes 32).bind fun key => follows_limit_bind fun k => ?_
  rcases hrun : x.run k (ChaCha.ofKey 10 (ChaCha.keyOfBytes key)) with ⟨(_ | _) | a, rest⟩
  · obtain ⟨_, hagree, m, hm⟩ := hx hrun (by simp)
    cases hagree with
    | failure he =>
        subst he
        exact (steady_fail _).congr_from m fun n hn => by rw [hm n hn n hn]
  · exact follows_endless
  · obtain ⟨_, hagree, m, hm⟩ := hx hrun (by simp)
    cases hagree with
    | value ha =>
        subst ha
        exact (steady_pure _).congr_from m fun n hn => by rw [hm n hn n hn]

theorem steady_draw (p : Pattern) : Steady (p.draw : Draw σ ε String) :=
  (steady_onFreshStream (Expr.steady_draw p.expr)).bind fun _ => steady_pure _

end Specimen.Pattern
