import Specimen.Pattern.Parser
import Specimen.Proofs.Pattern.Backslashes

/-!
# A pattern as it is written and as it is drawn from

The pattern that texts are drawn from is spelled in another way than the one that is
written: shorthands stand as sets, and a dollar sign at the end is gone. `Spelled`
relates the two texts from any place on that a reader can be at; a reader of both is
never inside a backslash and what it escapes, except where it passes over comments
and names.

A character that is not a backslash is the same on both sides, so most of what reads
a text character by character reads the same on both. Lemmas here take the relation
apart at a character of either side, and carry it past blanks (`Spelled.skip`) and
runs of characters (`Spelled.collect`).
-/

namespace Specimen.Pattern

/-- A text as it is written, and the same text as it is drawn from. -/
inductive Spelled : List Char → List Char → Prop
  | nil : Spelled [] []
  | dollar : Spelled ['$'] []
  | plain {c : Char} {s t : List Char} (hc : c ≠ '\\') (h : Spelled s t) :
      Spelled (c :: s) (c :: t)
  | backslash : Spelled ['\\'] ['\\']
  | escaped {c : Char} {s t : List Char} (hc : shorthand? c = none) (h : Spelled s t) :
      Spelled ('\\' :: c :: s) ('\\' :: c :: t)
  | shorthand {c : Char} {set s t : List Char} (hc : shorthand? c = some set) (h : Spelled s t) :
      Spelled ('\\' :: c :: s) (set ++ t)

/-! ## Characters that can differ -/

/-- A property of none of the characters that can differ on the two sides: a backslash
and a bracket by a shorthand, a dollar sign by standing at the end. -/
structure Common (p : Char → Bool) : Prop where
  backslash : p '\\' = false
  bracket : p '[' = false
  dollar : p '$' = false

theorem ne_of_holds {p : Char → Bool} {c d : Char} (hc : p c = true) (hd : p d = false) :
    c ≠ d := by
  rintro rfl
  exact Bool.false_ne_true (hd.symm.trans hc)

/-! ## Shorthands -/

/-- A shorthand stands for a set that is written in brackets. Neither its letter nor
a character of the set ends anything or is passed over. -/
theorem shorthand?_eq_some {c : Char} {set : List Char} (h : shorthand? c = some set) :
    (∃ inner, set = '[' :: inner)
      ∧ ∀ d ∈ c :: set, d ≠ '\n' ∧ d ≠ '#' ∧ d ≠ '\x7d' ∧ isBlank d = false := by
  have hset : (∃ inner, set = '[' :: inner)
      ∧ (c :: set).all (fun d => d != '\n' && d != '#' && d != '\x7d' && !isBlank d) = true := by
    unfold shorthand? at h
    split at h
    case h_5 => cases h
    all_goals
      obtain rfl := Option.some.inj h
      exact ⟨⟨_, rfl⟩, by decide +kernel⟩
  exact ⟨hset.1, fun d hd => by simpa [and_assoc] using List.all_eq_true.mp hset.2 d hd⟩

namespace Spelled

variable {c : Char} {s t : List Char}

theorem nil_left (h : Spelled [] t) : t = [] := by
  cases h
  rfl

/-- Past a character that was written. -/
theorem cons_left (h : Spelled (c :: s) t) (hc : c ≠ '\\') (hdollar : c ≠ '$') :
    ∃ t', t = c :: t' ∧ Spelled s t' := by
  cases h with
  | dollar => exact absurd rfl hdollar
  | plain _ h => exact ⟨_, rfl, h⟩
  | backslash => exact absurd rfl hc
  | escaped _ _ => exact absurd rfl hc
  | shorthand _ _ => exact absurd rfl hc

/-- Past a character that is drawn from. -/
theorem cons_right (h : Spelled s (c :: t)) (hc : c ≠ '\\') (hbracket : c ≠ '[') :
    ∃ s', s = c :: s' ∧ Spelled s' t := by
  generalize ht : c :: t = t₀ at h
  cases h with
  | nil => cases ht
  | dollar => cases ht
  | plain _ h =>
      cases ht
      exact ⟨_, rfl, h⟩
  | backslash =>
      cases ht
      exact absurd rfl hc
  | escaped _ _ =>
      cases ht
      exact absurd rfl hc
  | shorthand hset _ =>
      obtain ⟨⟨inner, rfl⟩, -⟩ := shorthand?_eq_some hset
      cases ht
      exact absurd rfl hbracket

theorem cons_left_of {p : Char → Bool} (hp : Common p) (h : Spelled (c :: s) t)
    (hc : p c = true) : ∃ t', t = c :: t' ∧ Spelled s t' :=
  h.cons_left (ne_of_holds hc hp.backslash) (ne_of_holds hc hp.dollar)

theorem cons_right_of {p : Char → Bool} (hp : Common p) (h : Spelled s (c :: t))
    (hc : p c = true) : ∃ s', s = c :: s' ∧ Spelled s' t :=
  h.cons_right (ne_of_holds hc hp.backslash) (ne_of_holds hc hp.bracket)

/-- Past a dollar sign that was written, which may be gone if it was the last
character. -/
theorem dollar_left (h : Spelled ('$' :: s) t) :
    (s = [] ∧ t = []) ∨ ∃ t', t = '$' :: t' ∧ Spelled s t' := by
  cases h with
  | dollar => exact .inl ⟨rfl, rfl⟩
  | plain _ h => exact .inr ⟨_, rfl, h⟩

/-- Past several characters that were written. -/
theorem append_left : ∀ (front : List Char) {s t : List Char}, Spelled (front ++ s) t →
    (∀ c ∈ front, c ≠ '\\' ∧ c ≠ '$') → ∃ t', t = front ++ t' ∧ Spelled s t'
  | [], s, t, h, _ => ⟨t, rfl, h⟩
  | c :: front, s, t, h, hfront => by
      have hc := hfront c List.mem_cons_self
      obtain ⟨t', rfl, hrest⟩ := h.cons_left hc.1 hc.2
      obtain ⟨t'', rfl, htail⟩ := append_left front hrest
        fun d hd => hfront d (List.mem_cons_of_mem _ hd)
      exact ⟨t'', rfl, htail⟩

/-- Past several characters that are drawn from. -/
theorem append_right : ∀ (front : List Char) {s t : List Char}, Spelled s (front ++ t) →
    (∀ c ∈ front, c ≠ '\\' ∧ c ≠ '[') → ∃ s', s = front ++ s' ∧ Spelled s' t
  | [], s, t, h, _ => ⟨s, rfl, h⟩
  | c :: front, s, t, h, hfront => by
      have hc := hfront c List.mem_cons_self
      obtain ⟨s', rfl, hrest⟩ := h.cons_right hc.1 hc.2
      obtain ⟨s'', rfl, htail⟩ := append_right front hrest
        fun d hd => hfront d (List.mem_cons_of_mem _ hd)
      exact ⟨s'', rfl, htail⟩

/-- The first characters are the same where neither side has one of the three that
can differ. -/
theorem head?_iff (h : Spelled s t) (hc : c ≠ '\\') (hbracket : c ≠ '[') (hdollar : c ≠ '$') :
    s.head? = some c ↔ t.head? = some c := by
  constructor
  · intro hs
    obtain ⟨s', rfl⟩ := List.head?_eq_some_iff.mp hs
    obtain ⟨t', rfl, -⟩ := h.cons_left hc hdollar
    rfl
  · intro ht
    obtain ⟨t', rfl⟩ := List.head?_eq_some_iff.mp ht
    obtain ⟨s', rfl, -⟩ := h.cons_right hc hbracket
    rfl

/-- Where the text that was written does not begin with a character, the text that is
drawn from does not either. -/
theorem ne_cons (h : Spelled s t) (hc : c ≠ '\\') (hbracket : c ≠ '[')
    (hs : ∀ tail, s ≠ c :: tail) (tail : List Char) : t ≠ c :: tail := by
  rintro rfl
  obtain ⟨s', rfl, -⟩ := h.cons_right hc hbracket
  exact hs s' rfl

end Spelled

/-! ## Anchors -/

theorem spelled_expandShorthands (s : List Char) : Spelled s (expandShorthands s) := by
  induction s using scan_induction with
  | nil => exact .nil
  | dangling => exact .backslash
  | escape c rest ih =>
      rw [expandShorthands_pair]
      cases hset : shorthand? c with
      | none => exact .escaped hset ih
      | some set => exact .shorthand hset ih
  | own c rest hc ih =>
      rw [expandShorthands_cons hc]
      exact .plain hc ih

/-- A dollar sign that is taken off is not escaped by the readers of a pattern
either. -/
theorem spelled_append_dollar (s : List Char) (h : isEscaped s = false) :
    Spelled (s ++ ['$']) (expandShorthands s) := by
  induction s using scan_induction with
  | nil => exact .dollar
  | dangling => simp [isEscaped] at h
  | escape c rest ih =>
      have hrest := ih (isEscaped_pair c rest ▸ h)
      rw [expandShorthands_pair]
      cases hset : shorthand? c with
      | none => exact .escaped hset hrest
      | some set => exact .shorthand hset hrest
  | own c rest hc ih =>
      rw [expandShorthands_cons hc]
      exact .plain hc (ih (isEscaped_cons hc rest ▸ h))

/-- What is drawn from is the text that was written, but for a caret in front. -/
theorem spelled_drawnText (s : List Char) : Spelled (dropStartAnchor s) (drawnText s) := by
  unfold drawnText dropAnchors dropEndAnchor
  split
  · next reversed hreverse =>
      have heq : dropStartAnchor s = reversed.reverse ++ ['$'] := by
        rw [← List.reverse_reverse (dropStartAnchor s), hreverse, List.reverse_cons]
      split
      · exact spelled_expandShorthands _
      · next hfree =>
          rw [heq]
          exact spelled_append_dollar _ (Bool.eq_false_iff.mpr hfree)
  · exact spelled_expandShorthands _

/-! ## Blanks -/

theorem skip_nil (b : Bool) : skip b [] = [] := by
  cases b <;> rfl

theorem skipIgnored_false_cons (c : Char) (s : List Char) :
    skipIgnored false (c :: s)
      = if isBlank c then skipIgnored false s else if c = '#' then skipIgnored true s else c :: s :=
  rfl

theorem skipIgnored_cons {c : Char} (hblank : isBlank c = false) (hcomment : c ≠ '#')
    (s : List Char) : skipIgnored false (c :: s) = c :: s := by
  rw [skipIgnored_false_cons, if_neg (by simp [hblank]), if_neg hcomment]

theorem skip_cons {c : Char} (hblank : isBlank c = false) (hcomment : c ≠ '#') (b : Bool)
    (s : List Char) : skip b (c :: s) = c :: s := by
  cases b with
  | false => rfl
  | true => exact skipIgnored_cons hblank hcomment s

theorem skipIgnored_skipIgnored : ∀ (inComment : Bool) (s : List Char),
    skipIgnored false (skipIgnored inComment s) = skipIgnored inComment s
  | _, [] => rfl
  | inComment, c :: s => by
      rw [skipIgnored.eq_def inComment]
      simp only
      split
      · exact skipIgnored_skipIgnored _ s
      · split
        · exact skipIgnored_skipIgnored _ s
        · next hblank =>
            split
            · exact skipIgnored_skipIgnored _ s
            · next hcomment => exact skipIgnored_cons (Bool.eq_false_iff.mpr hblank) hcomment s

theorem skip_skip (b : Bool) (s : List Char) : skip b (skip b s) = skip b s := by
  cases b with
  | false => rfl
  | true => exact skipIgnored_skipIgnored false s

/-- A comment passes over a set that stands for a shorthand. -/
theorem skipIgnored_append {front : List Char} (h : ∀ d ∈ front, d ≠ '\n') (s : List Char) :
    skipIgnored true (front ++ s) = skipIgnored true s := by
  induction front with
  | nil => rfl
  | cons d front ih =>
      have hd : (d != '\n') = true := by simpa using h d List.mem_cons_self
      rw [List.cons_append, skipIgnored, if_pos rfl, hd]
      exact ih fun e he => h e (List.mem_cons_of_mem _ he)

namespace Spelled

theorem skipIgnored {s t : List Char} (h : Spelled s t) (inComment : Bool) :
    Spelled (Pattern.skipIgnored inComment s) (Pattern.skipIgnored inComment t) := by
  have hbackslash (s : List Char) : Pattern.skipIgnored false ('\\' :: s) = '\\' :: s :=
    skipIgnored_cons (by decide) (by decide) s
  induction h generalizing inComment with
  | nil => exact .nil
  | dollar =>
      cases inComment with
      | false => exact .dollar
      | true => exact .nil
  | @plain c s t hc h ih =>
      unfold Pattern.skipIgnored
      split
      · exact ih _
      · split
        · exact ih _
        · split
          · exact ih _
          · exact .plain hc h
  | backslash =>
      cases inComment with
      | false =>
          rw [hbackslash]
          exact .backslash
      | true => exact .nil
  | @escaped c s t hc h ih =>
      cases inComment with
      | false =>
          rw [hbackslash, hbackslash]
          exact .escaped hc h
      | true => exact ih _
  | @shorthand c set s t hset h ih =>
      obtain ⟨⟨inner, rfl⟩, hchars⟩ := shorthand?_eq_some hset
      cases inComment with
      | false =>
          rw [hbackslash, List.cons_append, skipIgnored_cons (by decide) (by decide)]
          exact .shorthand hset h
      | true =>
          have hnewline : (c != '\n') = true := by simpa using (hchars c List.mem_cons_self).1
          rw [skipIgnored_append fun d hd => (hchars d (List.mem_cons_of_mem _ hd)).1]
          show Spelled (Pattern.skipIgnored (c != '\n') s) _
          rw [hnewline]
          exact ih true

/-- Blanks and comments are the same on both sides, up to shorthands in comments. -/
theorem skip {s t : List Char} (h : Spelled s t) (b : Bool) :
    Spelled (Pattern.skip b s) (Pattern.skip b t) := by
  cases b with
  | false => exact h
  | true => exact h.skipIgnored false

end Spelled

theorem length_skipIgnored_le : ∀ (inComment : Bool) (s : List Char),
    (skipIgnored inComment s).length ≤ s.length
  | _, [] => Nat.le_refl _
  | inComment, c :: rest => by
      unfold skipIgnored
      split
      · exact Nat.le_succ_of_le (length_skipIgnored_le _ rest)
      · split
        · exact Nat.le_succ_of_le (length_skipIgnored_le _ rest)
        · split
          · exact Nat.le_succ_of_le (length_skipIgnored_le _ rest)
          · exact Nat.le_refl _

theorem length_skip_le (b : Bool) (s : List Char) : (skip b s).length ≤ s.length := by
  cases b with
  | false => exact Nat.le_refl _
  | true => exact length_skipIgnored_le false s

end Specimen.Pattern
