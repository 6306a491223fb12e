import Specimen.Proofs.Pattern.Ascii
import Specimen.Proofs.Pattern.Spelling

/-!
# Escapes and counts in both spellings

What follows a backslash and what stands in braces is read off the text that was
written and off the text that is drawn from with the same result. Each lemma says so
of one reader: where both texts are read, the results agree and the texts that are
left are the same two spellings of what follows.

That both are read has to be assumed, for one of the texts can break off earlier, by
a dollar sign that was its last character.
-/

namespace Specimen.Pattern

/-! ## Runs of characters -/

theorem collect_nil (b : Bool) (p : Char → Bool) (fuel : Nat) : collect b p fuel [] = ([], []) := by
  cases fuel <;> rfl

theorem collect_stop {p : Char → Bool} {c : Char} (hc : p c = false) (b : Bool) (fuel : Nat)
    (s : List Char) : collect b p fuel (c :: s) = ([], c :: s) := by
  cases fuel with
  | zero => rfl
  | succ fuel =>
      unfold collect
      rw [hc]
      rfl

theorem collect_go {p : Char → Bool} {c : Char} (hc : p c = true) (b : Bool) (fuel : Nat)
    (s : List Char) :
    collect b p (fuel + 1) (c :: s)
      = (c :: (collect b p fuel (skip b s)).1, (collect b p fuel (skip b s)).2) := by
  rw [collect, if_pos hc]

/-- Characters that are all taken, none of them ignored. -/
theorem collect_append {b : Bool} {p : Char → Bool} {s : List Char} (fuel : Nat) :
    ∀ (d : Char) (front : List Char),
      (∀ e ∈ d :: front, p e = true ∧ isBlank e = false ∧ e ≠ '#') →
      collect b p (front.length + 1 + fuel) (d :: front ++ s)
        = (d :: front ++ (collect b p fuel (skip b s)).1, (collect b p fuel (skip b s)).2)
  | d, [], h => by
      rw [Nat.add_comm _ fuel]
      exact collect_go (h d List.mem_cons_self).1 b fuel s
  | d, e :: front, h => by
      have hrest := collect_append (b := b) (s := s) fuel e front
        fun f hf => h f (List.mem_cons_of_mem _ hf)
      obtain ⟨-, hblank, hcomment⟩ := h e (List.mem_cons_of_mem _ List.mem_cons_self)
      rw [List.length_cons, Nat.add_right_comm _ 1 fuel, List.cons_append,
        collect_go (h d List.mem_cons_self).1, List.cons_append, skip_cons hblank hcomment,
        ← List.cons_append, hrest]
      rfl

/-- A run of characters among which none can differ is the same on both sides. -/
theorem Spelled.collect {p : Char → Bool} (hp : Common p) (b : Bool) :
    ∀ (fuel fuel' : Nat) {s t : List Char}, Spelled s t → s.length ≤ fuel → t.length ≤ fuel' →
      (Pattern.collect b p fuel s).1 = (Pattern.collect b p fuel' t).1
        ∧ Spelled (Pattern.collect b p fuel s).2 (Pattern.collect b p fuel' t).2 := by
  intro fuel
  induction fuel with
  | zero =>
      intro fuel' s t h hs _
      obtain rfl := List.length_eq_zero_iff.mp (Nat.le_zero.mp hs)
      obtain rfl := h.nil_left
      rw [collect_nil, collect_nil]
      exact ⟨rfl, h⟩
  | succ fuel ih =>
      intro fuel' s t h hs ht
      have hwhole := h
      cases h with
      | nil =>
          rw [collect_nil, collect_nil]
          exact ⟨rfl, hwhole⟩
      | dollar =>
          rw [collect_nil, collect_stop hp.dollar]
          exact ⟨rfl, hwhole⟩
      | backslash =>
          rw [collect_stop hp.backslash, collect_stop hp.backslash]
          exact ⟨rfl, hwhole⟩
      | escaped _ _ =>
          rw [collect_stop hp.backslash, collect_stop hp.backslash]
          exact ⟨rfl, hwhole⟩
      | shorthand hset _ =>
          obtain ⟨⟨inner, rfl⟩, -⟩ := shorthand?_eq_some hset
          rw [collect_stop hp.backslash, List.cons_append, collect_stop hp.bracket]
          exact ⟨rfl, hwhole⟩
      | @plain c s t hc h =>
          cases hpc : p c with
          | false =>
              rw [collect_stop hpc, collect_stop hpc]
              exact ⟨rfl, hwhole⟩
          | true =>
              obtain ⟨fuel', rfl⟩ : ∃ k, fuel' = k + 1 := ⟨fuel' - 1, by simp at ht; omega⟩
              have hs' := length_skip_le b s
              have ht' := length_skip_le b t
              simp only [List.length_cons] at hs ht
              rw [collect_go hpc, collect_go hpc]
              obtain ⟨heq, hrest⟩ := ih fuel' (h.skip b) (by omega) (by omega)
              exact ⟨congrArg (c :: ·) heq, hrest⟩

/-- Two texts from a place inside an escape, or from any other. -/
inductive SpelledInside : List Char → List Char → Prop
  | outside {s t : List Char} (h : Spelled s t) : SpelledInside s t
  | inside {c : Char} {s t : List Char} (h : Spelled s t) : SpelledInside (c :: s) (c :: t)

theorem SpelledInside.skip {s t : List Char} (h : SpelledInside s t) (b : Bool) :
    SpelledInside (skip b s) (skip b t) := by
  cases h with
  | outside h => exact .outside (h.skip b)
  | @inside c s t h =>
      cases b with
      | false => exact .inside h
      | true =>
          show SpelledInside (Pattern.skipIgnored false (c :: s)) (Pattern.skipIgnored false (c :: t))
          rw [skipIgnored_false_cons, skipIgnored_false_cons]
          split
          · exact .outside (h.skipIgnored false)
          · split
            · exact .outside (h.skipIgnored true)
            · exact .inside h

/-- The text up to a closing brace is the same on both sides, or a shorthand in it
has left a bracket. -/
theorem SpelledInside.collect (b : Bool) :
    ∀ {n fuel fuel' : Nat} {s t text rest : List Char} {x : Char}, SpelledInside s t →
      s.length ≤ n → s.length ≤ fuel → t.length ≤ fuel' →
      Pattern.collect b (· != '\x7d') fuel s = (text, x :: rest) →
      ∃ text' rest', Pattern.collect b (· != '\x7d') fuel' t = (text', x :: rest') ∧ Spelled rest rest'
        ∧ (text' = text ∨ '[' ∈ text') := by
  intro n
  induction n with
  | zero =>
      intro fuel fuel' s t text rest x _ hn _ _ hs
      obtain rfl := List.length_eq_zero_iff.mp (Nat.le_zero.mp hn)
      rw [collect_nil] at hs
      cases hs
  | succ n ih =>
      intro fuel fuel' s t text rest x h hn hfuel hfuel' hs
      -- one character that is the same on both sides
      have hsame {c : Char} {s t : List Char} (h : SpelledInside s t)
          (hrest : c = '\x7d' → Spelled s t) (hn : s.length ≤ n) (hfuel : s.length < fuel)
          (hfuel' : t.length < fuel')
          (hs : Pattern.collect b (· != '\x7d') fuel (c :: s) = (text, x :: rest)) :
          ∃ text' rest', Pattern.collect b (· != '\x7d') fuel' (c :: t) = (text', x :: rest')
            ∧ Spelled rest rest' ∧ (text' = text ∨ '[' ∈ text') := by
        by_cases hc : c = '\x7d'
        · subst hc
          rw [collect_stop (by decide)] at hs ⊢
          obtain ⟨rfl, hcons⟩ := Prod.mk.inj hs
          obtain ⟨rfl, rfl⟩ := List.cons.inj hcons
          exact ⟨_, _, rfl, hrest rfl, .inl rfl⟩
        · have hp : (c != '\x7d') = true := by simpa using hc
          obtain ⟨fuel, rfl⟩ : ∃ k, fuel = k + 1 := ⟨fuel - 1, by omega⟩
          obtain ⟨fuel', rfl⟩ : ∃ k, fuel' = k + 1 := ⟨fuel' - 1, by omega⟩
          have hs' := length_skip_le b s
          have ht' := length_skip_le b t
          rw [collect_go (p := (· != '\x7d')) hp] at hs ⊢
          obtain ⟨rfl, hright⟩ := Prod.mk.inj hs
          obtain ⟨text', rest', hcollect, hspelled, htext⟩ := ih (h.skip b) (by omega)
            (show _ ≤ fuel by omega) (show _ ≤ fuel' by omega)
            (Prod.ext (rfl : _ = (_, x :: rest).1) hright)
          rw [hcollect]
          exact ⟨_, _, rfl, hspelled,
            htext.imp (congrArg (c :: ·)) (List.mem_cons_of_mem _)⟩
      cases h with
      | @inside c s t h =>
          simp only [List.length_cons] at hn hfuel hfuel'
          exact hsame (.outside h) (fun _ => h) (by omega) (by omega) (by omega) hs
      | outside h =>
          cases h with
          | nil =>
              rw [collect_nil] at hs
              cases hs
          | dollar =>
              obtain ⟨fuel, rfl⟩ : ∃ k, fuel = k + 1 := ⟨fuel - 1, by simp at hfuel; omega⟩
              rw [collect_go (by decide), skip_nil, collect_nil] at hs
              cases hs
          | backslash =>
              obtain ⟨fuel, rfl⟩ : ∃ k, fuel = k + 1 := ⟨fuel - 1, by simp at hfuel; omega⟩
              rw [collect_go (by decide), skip_nil, collect_nil] at hs
              cases hs
          | @plain c s t hc h =>
              simp only [List.length_cons] at hn hfuel hfuel'
              exact hsame (.outside h) (fun _ => h) (by omega) (by omega) (by omega) hs
          | @escaped c s t hc h =>
              simp only [List.length_cons] at hn hfuel hfuel'
              exact hsame (.inside h) (fun heq => absurd heq (by decide)) (by simp; omega) (by simp; omega)
                (by simp; omega) hs
          | @shorthand c set s t hset h =>
              obtain ⟨⟨inner, rfl⟩, hchars⟩ := shorthand?_eq_some hset
              have hfront : ∀ e ∈ '[' :: inner,
                  (e != '\x7d') = true ∧ isBlank e = false ∧ e ≠ '#' := fun e he => by
                obtain ⟨-, hcomment, hbrace, hblank⟩ := hchars e (List.mem_cons_of_mem _ he)
                exact ⟨by simpa using hbrace, hblank, hcomment⟩
              obtain ⟨-, hcomment, hbrace, hblank⟩ := hchars c List.mem_cons_self
              simp only [List.length_cons, List.length_append] at hn hfuel hfuel'
              obtain ⟨fuel, rfl⟩ : ∃ k, fuel = k + 1 + 1 := ⟨fuel - 2, by omega⟩
              obtain ⟨fuel', rfl⟩ : ∃ k, fuel' = inner.length + 1 + k :=
                ⟨fuel' - (inner.length + 1), by omega⟩
              have hs' := length_skip_le b s
              have ht' := length_skip_le b t
              rw [collect_go (by decide), skip_cons hblank hcomment,
                collect_go (by simpa using hbrace)] at hs
              obtain ⟨-, hright⟩ := Prod.mk.inj hs
              obtain ⟨text', rest', hcollect, hspelled, -⟩ := ih (.outside (h.skip b)) (by omega)
                (show _ ≤ fuel by omega) (show _ ≤ fuel' by omega)
                (Prod.ext (rfl : _ = (_, x :: rest).1) hright)
              rw [collect_append _ _ _ hfront, hcollect]
              exact ⟨_, _, rfl, hspelled, .inr List.mem_cons_self⟩

/-! ## Characters by number -/

theorem common_isHex : Common Digits.isHex := ⟨by decide, by decide, by decide⟩

namespace Spelled

variable {s t rest : List Char} {c : Char}

theorem hexFixed (b : Bool) : ∀ {count : Nat} {done s t rest : List Char} {c : Char}, Spelled s t →
    Pattern.hexFixed b done count s = .ok (c, rest) →
    ∃ rest', Pattern.hexFixed b done count t = .ok (c, rest') ∧ Spelled rest rest'
  | 0, done, s, t, rest, c, h, hs => by
      obtain ⟨d, hd, hs⟩ := ok_of_bind hs
      cases hs
      unfold Pattern.hexFixed
      rw [hd]
      exact ⟨t, rfl, h⟩
  | count + 1, done, [], t, rest, c, h, hs => by cases hs
  | count + 1, done, d :: s, t, rest, c, h, hs => by
      unfold Pattern.hexFixed at hs
      split at hs
      · next hhex =>
          obtain ⟨t, rfl, hrest⟩ := h.cons_left_of common_isHex hhex
          unfold Pattern.hexFixed
          rw [if_pos hhex]
          exact hexFixed b (hrest.skip b) hs
      · cases hs

theorem hexBraced (h : Spelled s t) (b : Bool) (hs : Pattern.hexBraced b s = .ok (c, rest)) :
    ∃ rest', Pattern.hexBraced b t = .ok (c, rest') ∧ Spelled rest rest' := by
  have hcollect := (h.skip b).collect common_isHex b _ _ (length_skip_le b s) (length_skip_le b t)
  unfold Pattern.hexBraced at hs ⊢
  rcases hleft : Pattern.collect b Digits.isHex s.length (Pattern.skip b s) with ⟨digits, left⟩
  rcases hright : Pattern.collect b Digits.isHex t.length (Pattern.skip b t) with ⟨digits', left'⟩
  rw [hleft, hright] at hcollect
  obtain ⟨rfl, hrest⟩ := hcollect
  rw [hleft] at hs
  split at hs
  · cases hs
  · next heq =>
      cases heq
      obtain ⟨left', rfl, htail⟩ := hrest.cons_left (by decide) (by decide)
      simp only
      split at hs
      · cases hs
      · next hdigits =>
          rw [if_neg hdigits]
          obtain ⟨d, hd, hs⟩ := ok_of_bind hs
          cases hs
          rw [hd]
          exact ⟨_, rfl, htail.skip b⟩
  · cases hs

theorem hexEscape (h : Spelled s t) (b : Bool) {count : Nat} (hcount : count ≠ 0)
    {c : LiteralChar} (hs : Pattern.hexEscape b count s = .ok (c, rest)) :
    ∃ rest', Pattern.hexEscape b count t = .ok (c, rest') ∧ Spelled rest rest' := by
  have hskip := h.skip b
  unfold Pattern.hexEscape at hs ⊢
  generalize Pattern.skip b s = s, Pattern.skip b t = t at hskip hs
  split at hs
  · cases hs
  · obtain ⟨t, rfl, htail⟩ := hskip.cons_left (by decide) (by decide)
    obtain ⟨⟨d, left⟩, hd, hs⟩ := ok_of_bind hs
    cases hs
    obtain ⟨left', hd', hrest⟩ := htail.hexBraced b hd
    simp only
    rw [hd']
    exact ⟨_, rfl, hrest⟩
  · next hempty hbrace =>
      obtain ⟨⟨d, left⟩, hd, hs⟩ := ok_of_bind hs
      cases hs
      obtain ⟨left', hd', hrest⟩ := hskip.hexFixed b hd
      -- digits come first, so neither text is empty and neither begins with a brace
      obtain ⟨e, s, rfl⟩ := List.exists_cons_of_ne_nil hempty
      obtain ⟨count, rfl⟩ := Nat.exists_eq_succ_of_ne_zero hcount
      have hhex : Digits.isHex e = true := by
        unfold Pattern.hexFixed at hd
        split at hd
        · next hhex => exact hhex
        · cases hd
      obtain ⟨t, rfl, -⟩ := hskip.cons_left_of common_isHex hhex
      split
      · next hnil => cases hnil
      · next hcons => exact absurd (List.cons.inj hcons).1 (ne_of_holds hhex (by decide))
      · rw [hd']
        exact ⟨_, rfl, hrest⟩

/-! ## Properties and boundaries -/

theorem propertyEscape (h : Spelled s t) (b negated : Bool) {rest' : List Char} {x y : CharSet}
    (hs : Pattern.propertyEscape b negated s = .ok (x, rest))
    (ht : Pattern.propertyEscape b negated t = .ok (y, rest')) : x.Reads y ∧ Spelled rest rest' := by
  have hskip := h.skip b
  unfold Pattern.propertyEscape at hs ht
  generalize Pattern.skip b s = s, Pattern.skip b t = t at hskip hs ht
  split at hs
  · cases hs
  · obtain ⟨t, rfl, htail⟩ := hskip.cons_left (by decide) (by decide)
    simp only at ht
    split at hs
    · next text e left hleft =>
        obtain ⟨text', left', hright, hrest, htext⟩ := (SpelledInside.outside (htail.skip b)).collect
          b (Nat.le_refl _) (length_skip_le b _) (length_skip_le b _) hleft
        rw [hright] at ht
        cases hs
        cases ht
        refine ⟨?_, hrest⟩
        rcases htext with rfl | hbracket
        · exact .of_ascii rfl
        · exact .of_not_found (propertyOf_not_found hbracket)
    · cases hs
  · cases hs
  · next d left hbrace hbackslash =>
      cases hs
      by_cases hdollar : d = '$'
      · subst hdollar
        rcases hskip.dollar_left with ⟨-, rfl⟩ | ⟨t, rfl, htail⟩
        · cases ht
        · cases ht
          exact ⟨.of_ascii rfl, htail.skip b⟩
      · have hd : d ≠ '\\' := fun heq => hbackslash (heq ▸ rfl)
        obtain ⟨t, rfl, htail⟩ := hskip.cons_left hd hdollar
        split at ht
        · next heq => cases heq
        · next heq => exact (hbrace (List.cons.inj heq).1).elim
        · cases ht
        · next heq =>
            cases heq
            cases ht
            exact ⟨.of_ascii rfl, htail.skip b⟩

end Spelled

/-- A character of the name of a boundary. -/
def isBoundaryChar (c : Char) : Bool := c.isAlpha || c == '-'

theorem common_isBoundaryChar : Common isBoundaryChar := ⟨by decide, by decide, by decide⟩

/-- The boundary whose name goes from here up to a closing brace. -/
def namedBoundary (b : Bool) (s : List Char) : Except Fault (Assertion × List Char) :=
  match collect b isBoundaryChar s.length s with
  | (name, '\x7d' :: rest) =>
    match boundaryOfName? name with
    | some a => .ok (a, rest)
    | none => .error .boundaryUnrecognized
  | _ => .error .boundaryUnclosed

section

variable {b : Bool} {s inner : List Char} {c : Char}

theorem boundaryEscape_end (h : skip b s = []) :
    boundaryEscape b ('\x7b' :: s) = .error .boundaryUnfinished := by
  unfold boundaryEscape
  simp only [h]

theorem boundaryEscape_named (h : skip b s = c :: inner) (hc : isBoundaryChar c = true) :
    boundaryEscape b ('\x7b' :: s) = namedBoundary b (c :: inner) := by
  unfold boundaryEscape
  simp only [h]
  exact if_pos hc

theorem boundaryEscape_counted (h : skip b s = c :: inner) (hc : ¬ isBoundaryChar c = true) :
    boundaryEscape b ('\x7b' :: s) = .ok (.wordBoundary, '\x7b' :: s) := by
  unfold boundaryEscape
  simp only [h]
  exact if_neg hc

theorem boundaryEscape_plain (h : ∀ tail, s ≠ '\x7b' :: tail) :
    boundaryEscape b s = .ok (.wordBoundary, s) := by
  unfold boundaryEscape
  split
  · exact (h _ rfl).elim
  · rfl

end

namespace Spelled

variable {s t rest : List Char}

theorem namedBoundary (h : Spelled s t) (b : Bool) {x : Assertion}
    (hs : Pattern.namedBoundary b s = .ok (x, rest)) :
    ∃ rest', Pattern.namedBoundary b t = .ok (x, rest') ∧ Spelled rest rest' := by
  have hcollect := h.collect common_isBoundaryChar b _ _ (Nat.le_refl _) (Nat.le_refl _)
  unfold Pattern.namedBoundary at hs ⊢
  rcases hleft : Pattern.collect b isBoundaryChar s.length s with ⟨name, left⟩
  rcases hright : Pattern.collect b isBoundaryChar t.length t with ⟨name', left'⟩
  rw [hleft, hright] at hcollect
  obtain ⟨rfl, hrest⟩ := hcollect
  rw [hleft] at hs
  split at hs
  · next heq =>
      cases heq
      obtain ⟨left', rfl, htail⟩ := hrest.cons_left (by decide) (by decide)
      simp only
      cases hname : boundaryOfName? name with
      | none =>
          rw [hname] at hs
          cases hs
      | some a =>
          rw [hname] at hs
          cases hs
          exact ⟨_, rfl, htail⟩
  · cases hs

theorem boundaryEscape (h : Spelled s t) (b : Bool) {rest' : List Char} {x y : Assertion}
    (hs : Pattern.boundaryEscape b s = .ok (x, rest))
    (ht : Pattern.boundaryEscape b t = .ok (y, rest')) : x = y ∧ Spelled rest rest' := by
  by_cases hbrace : ∃ tail, s = '\x7b' :: tail
  · obtain ⟨s, rfl⟩ := hbrace
    obtain ⟨t, rfl, htail⟩ := h.cons_left (by decide) (by decide)
    have hskip := htail.skip b
    rcases hleft : Pattern.skip b s with _ | ⟨c, inner⟩
    · rw [boundaryEscape_end hleft] at hs
      cases hs
    rcases hright : Pattern.skip b t with _ | ⟨c', inner'⟩
    · rw [boundaryEscape_end hright] at ht
      cases ht
    rw [hleft, hright] at hskip
    by_cases hc : isBoundaryChar c = true
    · obtain ⟨_, heq, -⟩ := hskip.cons_left_of common_isBoundaryChar hc
      obtain ⟨rfl, rfl⟩ := List.cons.inj heq
      rw [boundaryEscape_named hleft hc] at hs
      rw [boundaryEscape_named hright hc] at ht
      obtain ⟨_, hname, hrest⟩ := hskip.namedBoundary b hs
      cases hname.symm.trans ht
      exact ⟨rfl, hrest⟩
    · have hc' : ¬ isBoundaryChar c' = true := fun hc' => by
        obtain ⟨_, heq, -⟩ := hskip.cons_right_of common_isBoundaryChar hc'
        exact hc ((List.cons.inj heq).1 ▸ hc')
      rw [boundaryEscape_counted hleft hc] at hs
      rw [boundaryEscape_counted hright hc'] at ht
      cases hs
      cases ht
      exact ⟨rfl, h⟩
  · rw [boundaryEscape_plain (not_exists.mp hbrace)] at hs
    rw [boundaryEscape_plain (h.ne_cons (by decide) (by decide) (not_exists.mp hbrace))] at ht
    cases hs
    cases ht
    exact ⟨rfl, h⟩

end Spelled

/-! ## Escapes -/

/-- An item as it is written, and as it is drawn from: the same character or the same
place, or sets that read the same. -/
inductive Regex.SameItem : Regex → Regex → Prop
  | literal (c : LiteralChar) : Regex.SameItem (.literal c) (.literal c)
  | assertion (a : Assertion) : Regex.SameItem (.assertion a) (.assertion a)
  | set {x y : CharSet} (h : x.Reads y) : Regex.SameItem (.set x) (.set y)

theorem Regex.SameItem.reads {r s : Regex} (h : Regex.SameItem r s) : r.Reads s := by
  cases h with
  | literal _ => exact .of_ascii rfl
  | assertion _ => exact .of_ascii rfl
  | set h => exact .set h

/-- An escape that is no shorthand. -/
theorem Spelled.escape {c : Char} {s t rest rest' : List Char} {x y : Regex} (h : Spelled s t)
    (hc : shorthand? c = none) (b : Bool) (hs : Pattern.escape b (c :: s) = .ok (x, rest))
    (ht : Pattern.escape b (c :: t) = .ok (y, rest')) : x.SameItem y ∧ Spelled rest rest' := by
  unfold Pattern.escape at hs ht
  simp only at hs ht
  split at hs
  · cases hs
  · next hdigit =>
      rw [if_neg hdigit] at ht
      split at hs
      · next hescapable =>
          rw [if_pos hescapable] at ht
          cases hs
          cases ht
          exact ⟨.literal _, h⟩
      · next hescapable =>
          rw [if_neg hescapable] at ht
          split at hs
          all_goals simp only at ht
          case h_1 | h_2 | h_3 =>
            obtain ⟨⟨d, left⟩, hd, hs⟩ := ok_of_bind hs
            obtain ⟨left', hd', hrest⟩ := h.hexEscape b (by decide) hd
            rw [hd'] at ht
            cases hs
            cases ht
            exact ⟨.literal d, hrest⟩
          case h_4 | h_5 =>
            obtain ⟨⟨set, left⟩, hset, hs⟩ := ok_of_bind hs
            obtain ⟨⟨set', left'⟩, hset', ht⟩ := ok_of_bind ht
            obtain ⟨hreads, hrest⟩ := h.propertyEscape b _ hset hset'
            cases hs
            cases ht
            exact ⟨.set hreads, hrest⟩
          case h_6 | h_7 | h_10 | h_11 => cases hc
          case h_8 | h_9 =>
            cases hs
            cases ht
            exact ⟨.set (.of_ascii rfl), h⟩
          case h_12 | h_13 | h_14 | h_15 | h_16 | h_17 =>
            cases hs
            cases ht
            exact ⟨.literal _, h⟩
          case h_18 | h_19 | h_21 | h_22 | h_23 =>
            cases hs
            cases ht
            exact ⟨.assertion _, h⟩
          case h_20 =>
            obtain ⟨⟨a, left⟩, ha, hs⟩ := ok_of_bind hs
            obtain ⟨⟨a', left'⟩, ha', ht⟩ := ok_of_bind ht
            obtain ⟨rfl, hrest⟩ := h.boundaryEscape b ha ha'
            cases hs
            cases ht
            exact ⟨.assertion a, hrest⟩
          case h_24 => cases hs

/-! ## Counts -/

namespace Spelled

variable {s t rest rest' : List Char}

theorem common_isBlank : Common isBlank :=
  ⟨by decide +kernel, by decide +kernel, by decide +kernel⟩

theorem common_isDigit : Common Char.isDigit := ⟨by decide, by decide, by decide⟩

theorem dropWhile {p : Char → Bool} (hp : Common p) (h : Spelled s t) :
    Spelled (s.dropWhile p) (t.dropWhile p) := by
  have hstop {c : Char} (hc : p c = false) (s : List Char) : (c :: s).dropWhile p = c :: s :=
    List.dropWhile_cons_of_neg (Bool.eq_false_iff.mp hc)
  induction h with
  | nil => exact .nil
  | dollar =>
      rw [hstop hp.dollar]
      exact .dollar
  | @plain c s t hc h ih =>
      cases hpc : p c with
      | true =>
          rw [List.dropWhile_cons_of_pos hpc, List.dropWhile_cons_of_pos hpc]
          exact ih
      | false =>
          rw [hstop hpc, hstop hpc]
          exact .plain hc h
  | backslash =>
      rw [hstop hp.backslash]
      exact .backslash
  | escaped hc h _ =>
      rw [hstop hp.backslash, hstop hp.backslash]
      exact .escaped hc h
  | shorthand hset h _ =>
      obtain ⟨⟨inner, rfl⟩, -⟩ := shorthand?_eq_some hset
      rw [hstop hp.backslash, List.cons_append, hstop hp.bracket]
      exact .shorthand hset h

theorem decimal (h : Spelled s t) (b : Bool) :
    (Pattern.decimal b s).1 = (Pattern.decimal b t).1
      ∧ Spelled (Pattern.decimal b s).2 (Pattern.decimal b t).2 := by
  obtain ⟨hdigits, hrest⟩ := (h.dropWhile common_isBlank).collect common_isDigit b
    s.length t.length (List.dropWhile_suffix _).length_le
    (List.dropWhile_suffix _).length_le
  have hblanks := (hrest.collect common_isBlank b _ _ (Nat.le_refl _) (Nat.le_refl _)).2
  unfold Pattern.decimal
  simp only [hdigits]
  exact ⟨trivial, hblanks⟩

end Spelled

/-- The bounds of a count from behind the comma on that follows the least one. -/
def boundsFrom (b : Bool) (least : Except Fault Nat) (s : List Char) :
    Except Fault ((Nat × Option Nat) × List Char) :=
  match skip b s with
  | [] => .error .countUnclosed
  | '\x7d' :: rest => do return ((← least, none), '\x7d' :: rest)
  | rest => do
    let least ← least
    let (greatest, rest) := decimal b rest
    return ((least, some (← greatest)), rest)

section

variable {b : Bool} {s rest : List Char} {c : Char} {count : Except Fault Nat}

theorem decimal_nil (b : Bool) : (decimal b []).2 = [] := rfl

theorem countBounds_end (h : decimal b (skip b s) = (count, [])) :
    countBounds b s = .error .countUnclosed := by
  unfold countBounds
  split
  · rfl
  · simp only [h]

theorem countBounds_comma (h : decimal b (skip b s) = (count, ',' :: rest)) :
    countBounds b s = boundsFrom b count rest := by
  unfold countBounds
  split
  · next hnil =>
      rw [hnil] at h
      cases (decimal_nil b).symm.trans (congrArg Prod.snd h)
  · simp only [h]
    rfl

theorem countBounds_single (hc : c ≠ ',') (h : decimal b (skip b s) = (count, c :: rest)) :
    countBounds b s = count >>= fun n => .ok ((n, some n), c :: rest) := by
  unfold countBounds
  split
  · next hnil =>
      rw [hnil] at h
      cases (decimal_nil b).symm.trans (congrArg Prod.snd h)
  · simp only [h]
    split
    · next heq => cases heq
    · next heq =>
        cases heq
        exact (hc rfl).elim
    · next heq =>
        cases heq
        rfl

end

namespace Spelled

variable {s t rest rest' : List Char}

theorem boundsFrom (h : Spelled s t) (b : Bool) {least : Except Fault Nat}
    {x y : Nat × Option Nat} (hs : Pattern.boundsFrom b least s = .ok (x, rest))
    (ht : Pattern.boundsFrom b least t = .ok (y, rest')) : x = y ∧ Spelled rest rest' := by
  have hskip := h.skip b
  unfold Pattern.boundsFrom at hs ht
  generalize Pattern.skip b s = s, Pattern.skip b t = t at hskip hs ht
  split at hs
  · cases hs
  · obtain ⟨t, rfl, hclosed⟩ := hskip.cons_left (by decide) (by decide)
    obtain ⟨n, hn, hs⟩ := ok_of_bind hs
    simp only [hn] at ht
    cases hs
    cases ht
    exact ⟨rfl, .plain (by decide) hclosed⟩
  · next hclosing =>
      obtain ⟨heq, hafter⟩ := hskip.decimal b
      obtain ⟨n, hn, hs⟩ := ok_of_bind hs
      split at ht
      · cases ht
      · obtain ⟨s, rfl, -⟩ := hskip.cons_right (by decide) (by decide)
        exact (hclosing s rfl).elim
      · obtain ⟨_, hn', ht⟩ := ok_of_bind ht
        cases hn.symm.trans hn'
        simp only [heq] at hs
        obtain ⟨m, hm, hs⟩ := ok_of_bind hs
        simp only [hm] at ht
        cases hs
        cases ht
        exact ⟨rfl, hafter⟩

theorem countBounds (h : Spelled s t) (b : Bool) {x y : Nat × Option Nat}
    (hs : Pattern.countBounds b s = .ok (x, rest)) (ht : Pattern.countBounds b t = .ok (y, rest')) :
    x = y ∧ Spelled rest rest' := by
  have hcount := (h.skip b).decimal b
  rcases hleft : Pattern.decimal b (Pattern.skip b s) with ⟨count, left⟩
  rcases hright : Pattern.decimal b (Pattern.skip b t) with ⟨count', left'⟩
  rw [hleft, hright] at hcount
  obtain ⟨rfl, hrest⟩ := hcount
  rcases left with _ | ⟨c, left⟩
  · rw [countBounds_end hleft] at hs
    cases hs
  rcases left' with _ | ⟨c', left'⟩
  · rw [countBounds_end hright] at ht
    cases ht
  by_cases hc : c = ','
  · subst hc
    obtain ⟨_, heq, htail⟩ := hrest.cons_left (by decide) (by decide)
    obtain ⟨rfl, rfl⟩ := List.cons.inj heq
    rw [countBounds_comma hleft] at hs
    rw [countBounds_comma hright] at ht
    exact htail.boundsFrom b hs ht
  · have hc' : c' ≠ ',' := by
      rintro rfl
      obtain ⟨_, heq, -⟩ := hrest.cons_right (by decide) (by decide)
      exact hc (List.cons.inj heq).1
    rw [countBounds_single hc hleft] at hs
    rw [countBounds_single hc' hright] at ht
    obtain ⟨n, hn, hs⟩ := ok_of_bind hs
    rw [hn] at ht
    cases hs
    cases ht
    exact ⟨rfl, hrest⟩

/-- A counted repetition, whose last sign says what it prefers. -/
theorem counted (h : Spelled s t) (b : Bool) {least least' : Nat} {greatest greatest' : Option Nat}
    {greedy greedy' : Bool} (hs : Pattern.counted b s = .ok (least, greatest, greedy, rest))
    (ht : Pattern.counted b t = .ok (least', greatest', greedy', rest')) :
    least = least' ∧ greatest = greatest' ∧ greedy = greedy' ∧ Spelled rest rest' := by
  obtain ⟨⟨⟨low, high⟩, left⟩, hbounds, hs⟩ := ok_of_bind hs
  obtain ⟨⟨⟨low', high'⟩, left'⟩, hbounds', ht⟩ := ok_of_bind ht
  obtain ⟨heq, hrest⟩ := h.countBounds b hbounds hbounds'
  cases heq
  simp only at hs ht
  split at hs
  · next left =>
      obtain ⟨left', rfl, htail⟩ := hrest.cons_left (by decide) (by decide)
      have hskip := htail.skip b
      simp only at hs ht
      generalize Pattern.skip b left = s', Pattern.skip b left' = t' at hskip hs ht
      split at hs
      · cases hs
      · next hcounts =>
          rw [if_neg hcounts] at ht
          split at hs
          · obtain ⟨t, rfl, hafter⟩ := hskip.cons_left (by decide) (by decide)
            cases hs
            cases ht
            exact ⟨rfl, rfl, rfl, hafter⟩
          · next hlazy =>
              cases hs
              split at ht
              · obtain ⟨s, rfl, -⟩ := hskip.cons_right (by decide) (by decide)
                exact (hlazy s rfl).elim
              · cases ht
                exact ⟨rfl, rfl, rfl, hskip⟩
  · cases hs

end Spelled

end Specimen.Pattern
