import Mathlib.Algebra.Group.Nat.Defs
import Specimen.Proofs.Random.Uniform

/-!
# Words and what is drawn from them

A draw of a number below `n` takes words until one is accepted. It never fails, and where it
does not end, all the words that it took were refused (`redraw_progress`). On the other side
there is a word for every number below `n`: the first one whose product with `n` reaches the
number has a low part below `n`, which no draw refuses (`exists_word`). So an integer is drawn
from a range just if it lies in the range (`integerFrom_reaches`).
-/

namespace Specimen.Draw

variable {σ ε : Type}

/-! ## Words in a row -/

/-- A number of words in a row have a property. -/
def Throughout (next : σ → Nat × σ) (P : Nat → Prop) : Nat → σ → Prop
  | 0, _ => True
  | count + 1, src => P (next src).1 ∧ Throughout next P count (next src).2

theorem Throughout.of_succ {next : σ → Nat × σ} {P : Nat → Prop} :
    ∀ {count : Nat} {src : σ}, Throughout next P (count + 1) src → Throughout next P count src
  | 0, _, _ => trivial
  | _ + 1, _, ⟨hfirst, hrest⟩ => ⟨hfirst, of_succ hrest⟩

theorem Throughout.imp {next : σ → Nat × σ} {P Q : Nat → Prop} (himp : ∀ w, P w → Q w) :
    ∀ {count : Nat} {src : σ}, Throughout next P count src → Throughout next Q count src
  | 0, _, _ => trivial
  | _ + 1, _, ⟨hfirst, hrest⟩ => ⟨himp _ hfirst, hrest.imp himp⟩

/-- A draw of a word: what it gives and leaves is what comes next. -/
def IsWord (next : σ → Nat × σ) (word : Draw σ ε Nat) : Prop :=
  ∀ limit src, word.run limit src = (.ok (next src).1, (next src).2)

section Redraw

variable {next : σ → Nat × σ} {word : Draw σ ε Nat} {bits n : Nat} {accept : Nat → Bool}

/-- A word is not accepted where a number below `n` is drawn. -/
def IsRejected (bits n : Nat) (accept : Nat → Bool) (w : Nat) : Prop :=
  accept (w * n % (1 <<< bits)) = false

/-- Words are taken until one is accepted. -/
theorem redraw_cases (hword : IsWord next word) (limit : Nat) : ∀ (tries : Nat) (src : σ),
    (∃ k rest, (redraw bits n accept word tries).run limit src = (.ok k, rest))
      ∨ Throughout next (IsRejected bits n accept) tries src ∧ ∃ rest,
        (redraw bits n accept word tries).run limit src = (.error .endless, rest)
  | 0, src => .inr ⟨trivial, src, rfl⟩
  | tries + 1, src => by
      unfold redraw
      rw [run_bind_of_ok (hword limit src)]
      by_cases haccept : accept ((next src).1 * n % (1 <<< bits)) = true
      · rw [if_pos haccept]
        exact .inl ⟨_, _, rfl⟩
      · rw [if_neg haccept]
        rcases redraw_cases hword limit tries (next src).2 with hdrawn | ⟨hrejected, hend⟩
        · exact .inl hdrawn
        · exact .inr ⟨⟨Bool.eq_false_iff.mpr haccept, hrejected⟩, hend⟩

/-- If the number that is drawn is of no use, then neither is any word that was taken. -/
theorem redraw_useless (hword : IsWord next word) {P : Nat → Prop} {taken : List Nat}
    (hrejected : ∀ w, IsRejected bits n accept w → P w)
    (htaken : ∀ w, w * n / (1 <<< bits) ∈ taken → P w) {limit count : Nat} {k : Nat} {rest : σ}
    (hk : k ∈ taken) (hrest : Throughout next P count rest) : ∀ {tries : Nat} {src : σ},
      (redraw bits n accept word tries).run limit src = (.ok k, rest) →
        Throughout next P (count + 1) src
  | 0, src, hrun => by simp [redraw] at hrun
  | tries + 1, src, hrun => by
      unfold redraw at hrun
      rw [run_bind_of_ok (hword limit src)] at hrun
      by_cases haccept : accept ((next src).1 * n % (1 <<< bits)) = true
      · rw [if_pos haccept] at hrun
        obtain ⟨hvalue, hleft⟩ := Prod.mk.inj hrun
        obtain rfl : (next src).1 * n / (1 <<< bits) = k := Except.ok.inj hvalue
        obtain rfl : (next src).2 = rest := hleft
        exact ⟨htaken _ hk, hrest⟩
      · rw [if_neg haccept] at hrun
        have hlater := redraw_useless hword hrejected htaken hk hrest hrun
        exact ⟨hrejected _ (Bool.eq_false_iff.mpr haccept), hlater.of_succ⟩

end Redraw

variable [Source σ]

/-! ## Words of the source -/

def next32 (src : σ) : Nat × σ := ((Source.next32 src).1.toNat, (Source.next32 src).2)

def next64 (src : σ) : Nat × σ := ((Source.next64 src).1.toNat, (Source.next64 src).2)

theorem isWord_word32 : IsWord next32 (word32 : Draw σ ε Nat) := fun _ _ => rfl

theorem isWord_word64 : IsWord next64 (word64 : Draw σ ε Nat) := fun _ _ => rfl

/-- A word is refused where a number below `n` is drawn: its low part lies in the uneven
rest. -/
def Refused (bits n w : Nat) : Prop := zone bits n < w * n % 2 ^ bits

theorem isRejected_below {bits n w : Nat} :
    IsRejected bits n (fun low => low ≤ zone bits n) w ↔ Refused bits n w := by
  unfold IsRejected Refused
  rw [decide_eq_false_iff_not, Nat.not_le, Nat.one_shiftLeft]

/-- The next 64-bit words of a source. -/
def nextWords : Nat → σ → List Nat
  | 0, _ => []
  | count + 1, src => (Source.next64 src).1.toNat :: nextWords count (Source.next64 src).2

/-- Whether the words of a source are refused, as many as there are tries, where a number
below `n` is drawn. -/
def RefusesAll (n tries : Nat) (src : σ) : Prop :=
  ∀ w ∈ nextWords tries src, zone 64 n < w * n % 2 ^ 64

theorem refusesAll_iff {n : Nat} : ∀ {tries : Nat} {src : σ},
    RefusesAll n tries src ↔ Throughout next64 (Refused 64 n) tries src
  | 0, _ => ⟨fun _ => trivial, fun _ => nofun⟩
  | _ + 1, _ => List.forall_mem_cons.trans (and_congr_right fun _ => refusesAll_iff)

theorem run_word64 (limit : Nat) (src : σ) :
    (word64 : Draw σ ε Nat).run limit src
      = (.ok (Source.next64 src).1.toNat, (Source.next64 src).2) := rfl

/-- Words are taken until one is accepted. -/
theorem redraw_progress (n limit : Nat) (tries : Nat) (src : σ) :
    (∃ k rest, (redraw 64 n (fun low => low ≤ zone 64 n) word64 tries : Draw σ ε Nat).run limit src
        = (.ok k, rest))
      ∨ RefusesAll n tries src ∧ ∃ rest,
        (redraw 64 n (fun low => low ≤ zone 64 n) word64 tries : Draw σ ε Nat).run limit src
          = (.error .endless, rest) := by
  rcases redraw_cases isWord_word64 limit tries src with hdrawn | ⟨hrejected, hend⟩
  · exact .inl hdrawn
  · exact .inr ⟨refusesAll_iff.mpr (hrejected.imp fun w hw => isRejected_below.mp hw), hend⟩

theorem below64_progress (n limit : Nat) (src : σ) :
    (∃ k rest, (below64 n : Draw σ ε Nat).run limit src = (.ok k, rest))
      ∨ RefusesAll n limit src ∧ ∃ rest,
        (below64 n : Draw σ ε Nat).run limit src = (.error .endless, rest) := by
  unfold below64 below
  split
  · exact .inl ⟨_, _, run_word64 limit src⟩
  · exact redraw_progress n limit limit src

theorem integerFrom_progress (lo hi : Int) (limit : Nat) (src : σ) :
    (∃ n rest, (integerFrom lo hi : Draw σ ε Int).run limit src = (.ok n, rest))
      ∨ RefusesAll (hi - lo + 1).toNat limit src ∧ ∃ rest,
        (integerFrom lo hi : Draw σ ε Int).run limit src = (.error .endless, rest) := by
  unfold integerFrom
  dsimp only
  split
  · exact .inl ⟨_, _, run_bind_of_ok (run_word64 limit src)⟩
  · rcases below64_progress (ε := ε) (hi - lo + 1).toNat limit src with
      ⟨k, rest, hrun⟩ | ⟨hrefused, rest, hrun⟩
    · exact .inl ⟨_, rest, run_bind_of_ok hrun⟩
    · exact .inr ⟨hrefused, rest, run_bind_of_error hrun⟩

/-! ## A word for every number -/

/-- The zone of accepted low parts holds one for every number at least. -/
theorem le_zone (bits n : Nat) : n - 1 ≤ zone bits n := by
  unfold zone
  rw [Nat.shiftLeft_eq]
  exact Nat.sub_le_sub_right (Nat.le_mul_of_pos_right n (Nat.two_pow_pos _)) 1

/-- The first word whose product with `n` reaches a number is accepted for it. -/
theorem exists_word {n k : Nat} (hk : k < n) (hn : n < 2 ^ 64) :
    ∃ w < 2 ^ 64, w * n / 2 ^ 64 = k ∧ ¬ Refused 64 n w := by
  have hpos : 0 < n := Nat.zero_lt_of_lt hk
  have hlow : k * 2 ^ 64 ≤ (k * 2 ^ 64 + (n - 1)) / n * n := by
    have := Nat.lt_div_mul_add (a := k * 2 ^ 64 + (n - 1)) hpos
    omega
  have hhigh : (k * 2 ^ 64 + (n - 1)) / n * n ≤ k * 2 ^ 64 + (n - 1) := Nat.div_mul_le_self ..
  refine ⟨(k * 2 ^ 64 + (n - 1)) / n, ?_, by omega, ?_⟩
  · rw [Nat.div_lt_iff_lt_mul hpos]
    omega
  · have hzone := le_zone 64 n
    unfold Refused
    omega

theorem below64_reaches {n k : Nat} (hk : k < n) (hn : n ≤ 2 ^ 64) :
    ∃ w : UInt64, ∀ {limit : Nat}, 0 < limit → ∀ src : σ, (Source.next64 src).1 = w →
      (below64 n : Draw σ ε Nat).run limit src = (.ok k, (Source.next64 src).2) := by
  rcases Nat.eq_or_lt_of_le hn with rfl | hlt
  · refine ⟨UInt64.ofNat k, fun {limit} _ src hword => ?_⟩
    have hnext : (Source.next64 src).1.toNat = k := by
      rw [hword, UInt64.toNat_ofNat']
      exact Nat.mod_eq_of_lt hk
    unfold below64 below
    rw [Nat.one_shiftLeft, if_pos rfl, run_word64, hnext]
  obtain ⟨w, hw, hvalue, haccept⟩ := exists_word hk hlt
  refine ⟨UInt64.ofNat w, fun {limit} hlimit src hword => ?_⟩
  obtain ⟨tries, rfl⟩ : ∃ tries, limit = tries + 1 := ⟨limit - 1, by omega⟩
  have hnext : (Source.next64 src).1.toNat = w := by
    rw [hword, UInt64.toNat_ofNat']
    exact Nat.mod_eq_of_lt hw
  have hlow : w * n % (1 <<< 64) ≤ zone 64 n := Nat.le_of_not_lt haccept
  unfold below64 below
  rw [Nat.one_shiftLeft, if_neg (Nat.ne_of_lt hlt), run_bind_of_ok (run_limit ..)]
  unfold redraw
  rw [run_bind_of_ok (run_word64 ..), hnext, if_pos (decide_eq_true hlow)]
  exact congrArg (fun value => (Except.ok value, _)) hvalue

/-- Every integer of a range is drawn from it, given the right word. -/
theorem integerFrom_reaches {lo hi n : Int} (hlo : lo ≤ n) (hhi : n ≤ hi)
    (hmin : int64Min ≤ lo) (hmax : hi ≤ int64Max) :
    ∃ w : UInt64, ∀ {limit : Nat}, 0 < limit → ∀ src : σ, (Source.next64 src).1 = w →
      (integerFrom lo hi : Draw σ ε Int).run limit src = (.ok n, (Source.next64 src).2) := by
  unfold int64Min at hmin
  unfold int64Max at hmax
  unfold integerFrom
  by_cases hwidth : (hi - lo + 1).toNat = 0x1_0000_0000_0000_0000
  · refine ⟨UInt64.ofNat (n % 2 ^ 64).toNat, fun {limit} _ src hword => ?_⟩
    have hnext : (Source.next64 src).1.toNat = (n % 2 ^ 64).toNat := by
      rw [hword, UInt64.toNat_ofNat']
      omega
    dsimp only
    rw [if_pos hwidth, run_bind_of_ok (run_word64 ..), hnext]
    refine congrArg (fun value => (Except.ok value, _)) ?_
    split <;> omega
  · obtain ⟨w, hw⟩ := below64_reaches (σ := σ) (ε := ε) (n := (hi - lo + 1).toNat)
      (k := (n - lo).toNat) (by omega) (by omega)
    refine ⟨w, fun {limit} hlimit src hword => ?_⟩
    dsimp only
    rw [if_neg hwidth, run_bind_of_ok (hw hlimit src hword)]
    refine congrArg (fun value => (Except.ok value, _)) ?_
    omega

end Specimen.Draw
