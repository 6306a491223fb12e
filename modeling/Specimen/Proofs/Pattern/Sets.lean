import Mathlib.Data.List.TakeDrop
import Specimen.Proofs.Pattern.Escapes

/-!
# Sets in both spellings

A set is read off the text that was written and off the text that is drawn from as two
sets of which the first reads as the second. Where the first text has a shorthand the
second has a set in its place, inside a set as well as outside of one; that set is
worked out once (`shorthand?_read`) and is closed before anything that follows it is
read.

The items of a set are gathered in an accumulator on either side, so the statement
about a whole set (`setAlikeWithin`) is about two readers in the middle of one.
-/

namespace Specimen.Pattern

/-! ## Fixed characters -/

/-- A reader of a few characters that are the same in both spellings, which takes
them whatever follows. -/
def FixedReader {α : Type} (read : List Char → Option (α × List Char)) : Prop :=
  ∀ {s rest : List Char} {x : α}, read s = some (x, rest) →
    ∃ front, s = front ++ rest ∧ (∀ c ∈ front, c ≠ '\\' ∧ c ≠ '[' ∧ c ≠ '$')
      ∧ ∀ rest', read (front ++ rest') = some (x, rest')

theorem Spelled.fixedReader {α : Type} {read : List Char → Option (α × List Char)}
    (hread : FixedReader read) {s t : List Char} (h : Spelled s t) :
    (read s = none ∧ read t = none)
      ∨ ∃ x rest rest', read s = some (x, rest) ∧ read t = some (x, rest') ∧ Spelled rest rest' := by
  cases hs : read s with
  | some found =>
      obtain ⟨x, rest⟩ := found
      obtain ⟨front, rfl, hfront, hany⟩ := hread hs
      obtain ⟨rest', rfl, hrest⟩ := h.append_left front fun c hc => ⟨(hfront c hc).1, (hfront c hc).2.2⟩
      exact .inr ⟨x, rest, rest', rfl, hany rest', hrest⟩
  | none =>
      cases ht : read t with
      | none => exact .inl ⟨rfl, rfl⟩
      | some found =>
          obtain ⟨x, rest⟩ := found
          obtain ⟨front, rfl, hfront, hany⟩ := hread ht
          obtain ⟨s', rfl, -⟩ := h.append_right front fun c hc => ⟨(hfront c hc).1, (hfront c hc).2.1⟩
          rw [hany s'] at hs
          cases hs

theorem fixedReader_setOperator? : FixedReader setOperator? := by
  intro s rest op h
  unfold setOperator? at h
  split at h
  case h_4 => cases h
  all_goals
    obtain ⟨rfl, rfl⟩ := Prod.mk.inj (Option.some.inj h)
    exact ⟨[_, _], rfl, by simp, fun _ => rfl⟩

/-- The names of sets are of small letters. -/
theorem NamedSet.ofName?_chars {name : List Char} {set : NamedSet}
    (h : NamedSet.ofName? name = some set) : ∀ c ∈ name, c.isLower = true := by
  refine List.all_eq_true.mp ?_
  unfold NamedSet.ofName? at h
  split at h
  case h_15 => cases h
  all_goals
    next heq =>
      have hname := congrArg String.toList heq
      rw [String.toList_ofList] at hname
      rw [hname]
      decide

/-- A named set after the sign that negates it. -/
def namedSetBody (negated : Bool) (s : List Char) : Option (CharSet × List Char) :=
  match s.span (· != ':') with
  | (name, ':' :: ']' :: rest) =>
    (NamedSet.ofName? name).map fun set => (.named negated set, rest)
  | _ => none

/-- Whether a sign in front negates a set, and what follows it. -/
def setSign (b : Bool) : List Char → Bool × List Char
  | '^' :: rest => (true, skip b rest)
  | s => (false, s)

theorem setSign_plain {b : Bool} {s : List Char} (h : ∀ rest, s ≠ '^' :: rest) :
    setSign b s = (false, s) := by
  unfold setSign
  split
  · next rest => exact (h rest rfl).elim
  · rfl

theorem namedSet?_colon (s : List Char) :
    namedSet? (':' :: s) = namedSetBody (setSign false s).1 (setSign false s).2 := rfl

theorem namedSet?_plain {c : Char} (hc : c ≠ '^') (s : List Char) :
    namedSet? (':' :: c :: s) = namedSetBody false (c :: s) := by
  rw [namedSet?_colon, setSign_plain fun rest heq => hc (List.cons.inj heq).1]

theorem namedSetBody_reads {negated : Bool} {s rest : List Char} {item : CharSet}
    (h : namedSetBody negated s = some (item, rest)) : item.Reads item := by
  unfold namedSetBody at h
  split at h
  · obtain ⟨set, -, heq⟩ := Option.map_eq_some_iff.mp h
    cases heq
    exact .of_ascii rfl
  · cases h

theorem fixedReader_namedSetBody (negated : Bool) : FixedReader (namedSetBody negated) := by
  intro s rest item h
  unfold namedSetBody at h
  split at h
  · next name left hspan =>
      obtain ⟨set, hset, heq⟩ := Option.map_eq_some_iff.mp h
      obtain ⟨rfl, rfl⟩ := Prod.mk.inj heq
      rw [List.span_eq_takeWhile_dropWhile] at hspan
      obtain ⟨htake, hdrop⟩ := Prod.mk.inj hspan
      have hlower := NamedSet.ofName?_chars hset
      have hne {d : Char} (hd : d.isLower = false) : ∀ c ∈ name, c ≠ d :=
        fun c hc => ne_of_holds (hlower c hc) hd
      refine ⟨name ++ [':', ']'], ?_, fun c hc => ?_, fun rest' => ?_⟩
      · rw [List.append_assoc]
        show s = name ++ ':' :: ']' :: left
        rw [← htake, ← hdrop, List.takeWhile_append_dropWhile]
      · rcases List.mem_append.mp hc with hc | hc
        · exact ⟨hne (by decide) c hc, hne (by decide) c hc, hne (by decide) c hc⟩
        · exact (by simp : ∀ c ∈ [':', ']'], c ≠ '\\' ∧ c ≠ '[' ∧ c ≠ '$') c hc
      · have hcolon : ∀ c ∈ name, (c != ':') = true := fun c hc => by
          simpa using hne (d := ':') (by decide) c hc
        unfold namedSetBody
        rw [List.span_eq_takeWhile_dropWhile, List.append_assoc,
          List.takeWhile_append_of_pos hcolon, List.dropWhile_append_of_pos hcolon]
        simp [hset]
  · cases h

theorem namedSet?_cases {s rest : List Char} {item : CharSet}
    (h : namedSet? s = some (item, rest)) :
    (∃ s', s = ':' :: '^' :: s' ∧ namedSetBody true s' = some (item, rest))
      ∨ ∃ c s', c ≠ '^' ∧ s = ':' :: c :: s' ∧ namedSetBody false (c :: s') = some (item, rest) := by
  obtain ⟨s, rfl⟩ : ∃ s', s = ':' :: s' := by
    unfold namedSet? at h
    split at h
    · exact ⟨_, rfl⟩
    · cases h
  cases s with
  | nil => cases h
  | cons c s =>
      by_cases hc : c = '^'
      · subst hc
        exact .inl ⟨s, rfl, h⟩
      · exact .inr ⟨c, s, hc, rfl, namedSet?_plain hc s ▸ h⟩

theorem namedSet?_reads {s rest : List Char} {item : CharSet}
    (h : namedSet? s = some (item, rest)) : item.Reads item := by
  obtain ⟨_, -, h⟩ | ⟨_, _, -, -, h⟩ := namedSet?_cases h
  · exact namedSetBody_reads h
  · exact namedSetBody_reads h

theorem fixedReader_namedSet? : FixedReader namedSet? := by
  have hcolon : ':' ≠ '\\' ∧ ':' ≠ '[' ∧ ':' ≠ '$' := by decide
  have hcaret : '^' ≠ '\\' ∧ '^' ≠ '[' ∧ '^' ≠ '$' := by decide
  intro s rest item h
  obtain ⟨s, rfl, hbody⟩ | ⟨c, s, hc, rfl, hbody⟩ := namedSet?_cases h
  · obtain ⟨front, rfl, hfront, hany⟩ := fixedReader_namedSetBody true hbody
    exact ⟨':' :: '^' :: front, rfl,
      List.forall_mem_cons.mpr ⟨hcolon, List.forall_mem_cons.mpr ⟨hcaret, hfront⟩⟩, hany⟩
  · obtain ⟨front, heq, hfront, hany⟩ := fixedReader_namedSetBody false hbody
    refine ⟨':' :: front, congrArg _ heq, List.forall_mem_cons.mpr ⟨hcolon, hfront⟩, ?_⟩
    cases front with
    | nil =>
        have hnone := hany []
        cases hnone
    | cons d front =>
        obtain ⟨rfl, -⟩ := List.cons.inj heq
        intro rest'
        rw [← hany rest']
        exact namedSet?_plain hc _

/-! ## Items -/

theorem setItem_char {c : Char} (hc : c ≠ '\\') (b : Bool) (s : List Char) :
    setItem b (c :: s) = .ok (.literal ⟨c, false⟩, s) := by
  unfold setItem
  split
  · next heq => cases heq
  · next heq => exact (hc (List.cons.inj heq).1).elim
  · next heq =>
      cases heq
      rfl

theorem asSetItem_reads {x y : Regex} (h : x.SameItem y) {a b : CharSet}
    (hx : asSetItem x = .ok a) (hy : asSetItem y = .ok b) : a.Reads b := by
  cases h with
  | literal c =>
      cases hx
      cases hy
      exact .of_ascii rfl
  | assertion _ => cases hx
  | set h =>
      cases hx
      cases hy
      exact h

theorem asRangeEnd_eq {x y : Regex} (h : x.SameItem y) {c d : LiteralChar}
    (hx : asRangeEnd x = .ok c) (hy : asRangeEnd y = .ok d) : c = d := by
  cases h with
  | literal c =>
      cases hx
      cases hy
      rfl
  | assertion _ => cases hx
  | set _ => cases hx

/-- The range that a first item begins, up to the item that is read from here. -/
def rangeTo (b : Bool) (first : Regex) (s : List Char) : Except Fault (CharSet × List Char) := do
  let (last, rest) ← setItem b s
  let lo ← asRangeEnd first
  let hi ← asRangeEnd last
  if hi.char < lo.char then .error .setRangeReversed
  else return (.range lo hi, rest)

/-- The character that is looked at past the next one, where it is one that cannot be
ignored. -/
theorem peekPast_true_eq_some {s : List Char} {c : Char} (hblank : isBlank c = false)
    (hcomment : c ≠ '#') :
    peekPast true s = some c ↔ (s.dropWhile isBlank).head? = some c
      ∨ ∃ rest, s.dropWhile isBlank = '#' :: rest ∧ (rest.dropWhile isBlank).head? = some c := by
  have hfirst (h : s.head? = some c) : (s.dropWhile isBlank).head? = some c := by
    obtain ⟨s', rfl⟩ := List.head?_eq_some_iff.mp h
    rw [List.dropWhile_cons_of_neg (by simp [hblank])]
    rfl
  unfold peekPast
  rw [if_pos rfl]
  split
  · next rest heq =>
      rw [heq] at hfirst ⊢
      cases hnext : (rest.dropWhile isBlank).head? with
      | none =>
          refine ⟨fun h => .inl (hfirst h), ?_⟩
          rintro (h | ⟨rest', heq', hhead⟩)
          · exact absurd (Option.some.inj h).symm hcomment
          · obtain ⟨-, rfl⟩ := List.cons.inj heq'
            rw [hnext] at hhead
            cases hhead
      | some d =>
          constructor
          · intro h
            exact .inr ⟨rest, rfl, hnext.trans h⟩
          · rintro (h | ⟨rest', heq', hhead⟩)
            · exact absurd (Option.some.inj h).symm hcomment
            · obtain ⟨-, rfl⟩ := List.cons.inj heq'
              exact hnext.symm.trans hhead
  · next d rest hne heq =>
      rw [heq]
      refine ⟨.inl, ?_⟩
      rintro (h | ⟨rest', heq', -⟩)
      · exact h
      · exact (hne (List.cons.inj heq').1).elim
  · next heq =>
      rw [heq] at hfirst ⊢
      refine ⟨fun h => .inl (hfirst h), ?_⟩
      rintro (h | ⟨rest', heq', -⟩)
      · cases h
      · cases heq'

/-! ## The set of a shorthand -/

/-- A set after its opening bracket, read with a given amount of fuel. -/
def setFrom (b : Bool) (fuel : Nat) (s : List Char) : Except Fault (CharSet × List Char) := do
  let (negated, opening, rest) ← setOpening b s
  setBody b negated none opening.reverse fuel rest

/-- A character that has no meaning of its own inside a set. -/
def isSetChar (c : Char) : Bool :=
  !isBlank c && !(['#', '^', '-', '[', ']', '&', '~', '\\'].contains c)

theorem isSetChar_iff {c : Char} : isSetChar c = true ↔ isBlank c = false ∧ c ≠ '#' ∧ c ≠ '^'
    ∧ c ≠ '-' ∧ c ≠ '[' ∧ c ≠ ']' ∧ c ≠ '&' ∧ c ≠ '~' ∧ c ≠ '\\' := by
  simp [isSetChar]

theorem setItem_setChar {c : Char} (hc : isSetChar c = true) (b : Bool) (s : List Char) :
    setItem b (c :: s) = .ok (.literal ⟨c, false⟩, s) :=
  setItem_char (isSetChar_iff.mp hc).2.2.2.2.2.2.2.2 b s

theorem leadingHyphens_setChar {c : Char} (hc : isSetChar c = true) (b : Bool) (s : List Char) :
    leadingHyphens b (c :: s) = ([], c :: s) := by
  have hne := (isSetChar_iff.mp hc).2.2.2.1
  unfold leadingHyphens
  rw [collect_stop (by simpa using hne)]
  rfl

theorem leadingHyphens_reads (b : Bool) (s : List Char) :
    List.Forall₂ CharSet.Reads (leadingHyphens b s).1 (leadingHyphens b s).1 := by
  refine List.forall₂_same.mpr fun x hx => ?_
  obtain ⟨c, -, rfl⟩ := List.mem_map.mp hx
  exact .of_ascii rfl

/-- What may stand in front of the items of a set, after the sign that negates it. -/
def openingItems (b negated : Bool) (s : List Char) :
    Except Fault (Bool × List CharSet × List Char) :=
  match leadingHyphens b s with
  | (_, []) => .error .setUnclosed
  | ([], ']' :: rest) =>
    match skip b rest with
    | [] => .error .setUnclosed
    | rest => .ok (negated, [.literal ⟨']', false⟩], rest)
  | (hyphens, rest) => .ok (negated, hyphens, rest)

theorem setOpening_eq (b : Bool) (s : List Char) :
    setOpening b s = openingItems b (setSign b (skip b s)).1 (setSign b (skip b s)).2 := rfl

theorem openingItems_setChar {c : Char} (hc : isSetChar c = true) (b negated : Bool)
    (s : List Char) : openingItems b negated (c :: s) = .ok (negated, [], c :: s) := by
  have hclose := (isSetChar_iff.mp hc).2.2.2.2.2.1
  unfold openingItems
  simp [leadingHyphens_setChar hc, hclose]

theorem setOpening_setChar {c : Char} (hc : isSetChar c = true) (b : Bool) (s : List Char) :
    setOpening b (c :: s) = .ok (false, [], c :: s)
      ∧ setOpening b ('^' :: c :: s) = .ok (true, [], c :: s) := by
  obtain ⟨hblank, hcomment, hcaret, -⟩ := isSetChar_iff.mp hc
  have hskip := skip_cons hblank hcomment b s
  have hnegated : skip b ('^' :: c :: s) = '^' :: c :: s :=
    skip_cons (by decide +kernel) (by decide) b _
  constructor
  · rw [setOpening_eq, hskip, setSign_plain fun rest heq => hcaret (List.cons.inj heq).1,
      openingItems_setChar hc]
  · rw [setOpening_eq, hnegated]
    show openingItems b true (skip b (c :: s)) = _
    rw [hskip, openingItems_setChar hc]

section

variable {b negated : Bool} {pending : Option (SetOperator × CharSet)} {items : List CharSet}
  {fuel : Nat} {s : List Char} {r : CharSet × List Char}

/-- An operator or an item inside a set. -/
theorem setBody_item {c : Char} (hskip : skip b (c :: s) = c :: s) (hopen : c ≠ '[')
    (hclose : c ≠ ']') :
    setBody b negated pending items (fuel + 1) (c :: s) = (match setOperator? (c :: s) with
      | some (op, rest) => setBody b negated (some (op, closeOperand pending items)) [] fuel rest
      | none => do
        let (item, rest) ← setRange b (c :: s)
        setBody b negated pending (item :: items) fuel rest) := by
  rw [setBody, hskip]
  cases hop : setOperator? (c :: s) <;> simp [hop, hopen, hclose]

theorem setBody_setChar {c : Char} (hc : isSetChar c = true) :
    setBody b negated pending items (fuel + 1) (c :: s) = (do
      let (item, rest) ← setRange b (c :: s)
      setBody b negated pending (item :: items) fuel rest) := by
  obtain ⟨hblank, hcomment, -, hhyphen, hopen, hclose, hand, htilde, -⟩ := isSetChar_iff.mp hc
  rw [setBody_item (skip_cons hblank hcomment b s) hopen hclose]
  simp [setOperator?, hhyphen, hand, htilde]

theorem setBody_close (h : setBody b negated pending items fuel (']' :: s) = .ok r) :
    r = (.bracketed negated (closeOperand pending items), s) := by
  cases fuel with
  | zero => cases h
  | succ fuel =>
      rw [setBody, skip_cons (by decide +kernel) (by decide)] at h
      exact (Except.ok.inj h).symm

theorem setBody_range {lo hi : Char} (hlo : isSetChar lo = true) (hhi : isSetChar hi = true)
    (hle : ¬ hi < lo)
    (h : setBody b negated pending items fuel (lo :: '-' :: hi :: s) = .ok r) :
    ∃ fuel', setBody b negated pending (.range ⟨lo, false⟩ ⟨hi, false⟩ :: items) fuel' s
      = .ok r := by
  obtain ⟨hblank, hcomment, -, hhyphen, -, hclose, -⟩ := isSetChar_iff.mp hhi
  cases fuel with
  | zero => cases h
  | succ fuel =>
      have hrange : setRange b (lo :: '-' :: hi :: s)
          = .ok (.range ⟨lo, false⟩ ⟨hi, false⟩, s) := by
        have hpeek : peekPast b (hi :: s) = some hi := by
          cases b with
          | false => rfl
          | true => exact (peekPast_true_eq_some hblank hcomment).mpr (.inl (by simp [hblank]))
        have hhyphenSkip : skip b ('-' :: hi :: s) = '-' :: hi :: s :=
          skip_cons (by decide +kernel) (by decide) b _
        simp [setRange, setItem_setChar hlo, setItem_setChar hhi, hhyphenSkip, hpeek, hclose, hhyphen,
          skip_cons hblank hcomment, asRangeEnd, hle, bind, Except.bind, pure, Except.pure]
      rw [setBody_setChar hlo, hrange] at h
      exact ⟨fuel, h⟩

theorem setBody_last {c : Char} (hc : isSetChar c = true)
    (h : setBody b negated pending items fuel (c :: ']' :: s) = .ok r) :
    r = (.bracketed negated (closeOperand pending (.literal ⟨c, false⟩ :: items)), s) := by
  cases fuel with
  | zero => cases h
  | succ fuel =>
      have hitem : setRange b (c :: ']' :: s) = .ok (.literal ⟨c, false⟩, ']' :: s) := by
        have hcloseSkip : skip b (']' :: s) = ']' :: s :=
          skip_cons (by decide +kernel) (by decide) b _
        simp [setRange, setItem_setChar hc, hcloseSkip, asSetItem, bind, Except.bind, pure,
          Except.pure]
      rw [setBody_setChar hc, hitem] at h
      exact setBody_close h

end

/-- What is read where a shorthand was written, and where the text of its set is drawn
from, whatever follows. -/
structure IsShorthand (c : Char) (set : List Char) (negated : Bool) (letters : LetterSet)
    (inner : CharSet) (front : List Char) : Prop where
  text : set = '[' :: front
  ascii? : letters.ascii? = some inner
  escape : ∀ b s, escape b (c :: s) = .ok (.set (.letter negated letters), s)
  namedSet? : ∀ t, namedSet? (front ++ t) = none
  setFrom : ∀ b fuel t r, setFrom b fuel (front ++ t) = .ok r → r = (.bracketed negated inner, t)

theorem shorthand?_read {c : Char} {set : List Char} (h : shorthand? c = some set) :
    ∃ negated letters inner front, IsShorthand c set negated letters inner front := by
  have hset : isSetChar '0' = true ∧ isSetChar '9' = true ∧ isSetChar 'A' = true
      ∧ isSetChar 'Z' = true ∧ isSetChar 'a' = true ∧ isSetChar 'z' = true
      ∧ isSetChar '_' = true := by decide +kernel
  obtain ⟨h0, h9, hA, hZ, ha, hz, hunderscore⟩ := hset
  have hdigits {b negated : Bool} {fuel : Nat} {t : List Char} {r : CharSet × List Char}
      (h : setBody b negated none [] fuel ('0' :: '-' :: '9' :: ']' :: t) = .ok r) :
      r = (.bracketed negated (.range ⟨'0', false⟩ ⟨'9', false⟩), t) := by
    obtain ⟨fuel, h⟩ := setBody_range h0 h9 (by decide) h
    exact setBody_close h
  have hword {b negated : Bool} {fuel : Nat} {t : List Char} {r : CharSet × List Char}
      (h : setBody b negated none [] fuel ('0' :: '-' :: '9' :: 'A' :: '-' :: 'Z' :: 'a' :: '-'
        :: 'z' :: '_' :: ']' :: t) = .ok r) :
      r = (.bracketed negated (.union [.range ⟨'0', false⟩ ⟨'9', false⟩,
        .range ⟨'A', false⟩ ⟨'Z', false⟩, .range ⟨'a', false⟩ ⟨'z', false⟩,
        .literal ⟨'_', false⟩]), t) := by
    obtain ⟨fuel, h⟩ := setBody_range h0 h9 (by decide) h
    obtain ⟨fuel, h⟩ := setBody_range hA hZ (by decide) h
    obtain ⟨fuel, h⟩ := setBody_range ha hz (by decide) h
    exact setBody_last hunderscore h
  unfold shorthand? at h
  split at h
  case h_5 => cases h
  all_goals
    obtain rfl := Option.some.inj h
    refine ⟨_, _, _, _, rfl, rfl, fun _ _ => rfl, fun _ => rfl, fun b fuel t r h => ?_⟩
    unfold setFrom at h
    simp only [List.cons_append, List.nil_append] at h
    first
      | rw [(setOpening_setChar h0 b _).1] at h
      | rw [(setOpening_setChar h0 b _).2] at h
    first
      | exact hdigits h
      | exact hword h

namespace Spelled

variable {s t rest rest' : List Char}

theorem peekPast_iff (h : Spelled s t) (b : Bool) {c : Char} (hblank : isBlank c = false)
    (hcomment : c ≠ '#') (hbackslash : c ≠ '\\') (hbracket : c ≠ '[') (hdollar : c ≠ '$') :
    peekPast b s = some c ↔ peekPast b t = some c := by
  cases b with
  | false => exact h.head?_iff hbackslash hbracket hdollar
  | true =>
      have hdrop := h.dropWhile common_isBlank
      rw [peekPast_true_eq_some hblank hcomment, peekPast_true_eq_some hblank hcomment,
        hdrop.head?_iff hbackslash hbracket hdollar]
      refine or_congr Iff.rfl ⟨?_, ?_⟩
      · rintro ⟨rest, heq, hhead⟩
        rw [heq] at hdrop
        obtain ⟨rest', heq', hrest⟩ := hdrop.cons_left (by decide) (by decide)
        exact ⟨rest', heq',
          ((hrest.dropWhile common_isBlank).head?_iff hbackslash hbracket hdollar).mp hhead⟩
      · rintro ⟨rest', heq, hhead⟩
        rw [heq] at hdrop
        obtain ⟨rest, heq', hrest⟩ := hdrop.cons_right (by decide) (by decide)
        exact ⟨rest, heq',
          ((hrest.dropWhile common_isBlank).head?_iff hbackslash hbracket hdollar).mpr hhead⟩

/-- An item of a set that is no shorthand. -/
theorem setItem (h : Spelled s t) (b : Bool)
    (hfront : ∀ c s', s = '\\' :: c :: s' → shorthand? c = none) {x y : Regex}
    (hs : Pattern.setItem b s = .ok (x, rest)) (ht : Pattern.setItem b t = .ok (y, rest')) :
    x.SameItem y ∧ Spelled rest rest' := by
  cases h with
  | nil => cases hs
  | dollar => cases ht
  | @plain c s t hc h =>
      rw [setItem_char hc] at hs ht
      cases hs
      cases ht
      exact ⟨.literal _, h⟩
  | backslash => cases hs
  | escaped hc h => exact h.escape hc b hs ht
  | shorthand hset _ =>
      rw [hfront _ _ rfl] at hset
      cases hset

theorem rangeTo (h : Spelled s t) (b : Bool) {first first' : Regex} (hfirst : first.SameItem first')
    {x y : CharSet} (hs : Pattern.rangeTo b first s = .ok (x, rest))
    (ht : Pattern.rangeTo b first' t = .ok (y, rest')) : x.Reads y ∧ Spelled rest rest' := by
  obtain ⟨⟨last, left⟩, hlast, hs⟩ := ok_of_bind hs
  obtain ⟨⟨last', left'⟩, hlast', ht⟩ := ok_of_bind ht
  obtain ⟨lo, hlo, hs⟩ := ok_of_bind hs
  obtain ⟨lo', hlo', ht⟩ := ok_of_bind ht
  obtain ⟨hi, hhi, hs⟩ := ok_of_bind hs
  obtain ⟨hi', hhi', ht⟩ := ok_of_bind ht
  -- a shorthand ends no range
  have hend : ∀ c s', s = '\\' :: c :: s' → shorthand? c = none := by
    rintro c s' rfl
    cases hset : shorthand? c with
    | none => rfl
    | some set =>
        obtain ⟨_, _, _, _, hshorthand⟩ := shorthand?_read hset
        change Pattern.escape b (c :: s') = _ at hlast
        rw [hshorthand.escape] at hlast
        cases hlast
        cases hhi
  obtain ⟨hsame, hrest⟩ := h.setItem b hend hlast hlast'
  cases asRangeEnd_eq hfirst hlo hlo'
  cases asRangeEnd_eq hsame hhi hhi'
  split at hs
  · cases hs
  · next hle =>
      rw [if_neg hle] at ht
      cases hs
      cases ht
      exact ⟨.of_ascii rfl, hrest⟩

theorem setRange (h : Spelled s t) (b : Bool)
    (hfront : ∀ c s', s = '\\' :: c :: s' → shorthand? c = none) {x y : CharSet}
    (hs : Pattern.setRange b s = .ok (x, rest)) (ht : Pattern.setRange b t = .ok (y, rest')) :
    x.Reads y ∧ Spelled rest rest' := by
  obtain ⟨⟨first, left⟩, hfirst, hs⟩ := ok_of_bind hs
  obtain ⟨⟨first', left'⟩, hfirst', ht⟩ := ok_of_bind ht
  obtain ⟨hsame, hleft⟩ := h.setItem b hfront hfirst hfirst'
  have hskip := hleft.skip b
  simp only at hs ht
  generalize Pattern.skip b left = s, Pattern.skip b left' = t at hskip hs ht
  split at hs
  · cases hs
  · next after =>
      obtain ⟨after', rfl, hafter⟩ := hskip.cons_left (by decide) (by decide)
      have hpeek : (peekPast b after = some ']' ∨ peekPast b after = some '-')
          ↔ (peekPast b after' = some ']' ∨ peekPast b after' = some '-') :=
        or_congr (hafter.peekPast_iff b (by decide +kernel) (by decide) (by decide) (by decide)
            (by decide))
          (hafter.peekPast_iff b (by decide +kernel) (by decide) (by decide) (by decide)
            (by decide))
      simp only at ht
      split at hs
      · next hsingle =>
          rw [if_pos (hpeek.mp hsingle)] at ht
          obtain ⟨a, ha, hs⟩ := ok_of_bind hs
          obtain ⟨a', ha', ht⟩ := ok_of_bind ht
          cases hs
          cases ht
          exact ⟨asSetItem_reads hsame ha ha', hskip⟩
      · next hrange =>
          rw [if_neg (hpeek.not.mp hrange)] at ht
          have hskip := hafter.skip b
          generalize Pattern.skip b after = s, Pattern.skip b after' = t at hskip hs ht
          split at hs
          · cases hs
          · split at ht
            · cases ht
            · exact hskip.rangeTo b hsame hs ht
  · next hnil hhyphen =>
      obtain ⟨a, ha, hs⟩ := ok_of_bind hs
      split at ht
      · cases ht
      · obtain ⟨s, rfl, -⟩ := hskip.cons_right (by decide) (by decide)
        exact (hhyphen s rfl).elim
      · obtain ⟨a', ha', ht⟩ := ok_of_bind ht
        cases hs
        cases ht
        exact ⟨asSetItem_reads hsame ha ha', hskip⟩

/-- A shorthand inside a set, which is written. -/
theorem setRange_shorthand {c : Char} {set : List Char} (hset : shorthand? c = some set) (b : Bool)
    {x : CharSet} (hs : Pattern.setRange b ('\\' :: c :: s) = .ok (x, rest)) :
    Pattern.escape b (c :: s) = .ok (.set x, s) ∧ rest = Pattern.skip b s := by
  obtain ⟨_, _, _, _, hshorthand⟩ := shorthand?_read hset
  obtain ⟨⟨first, left⟩, hfirst, hs⟩ := ok_of_bind hs
  change Pattern.escape b (c :: s) = _ at hfirst
  rw [hshorthand.escape] at hfirst
  cases hfirst
  simp only at hs
  split at hs
  · cases hs
  · next after heq =>
      split at hs
      · cases hs
        exact ⟨hshorthand.escape b s, heq.symm⟩
      · split at hs
        · cases hs
        · obtain ⟨⟨last, left⟩, -, hs⟩ := ok_of_bind hs
          obtain ⟨lo, hlo, -⟩ := ok_of_bind hs
          cases hlo
  · cases hs
    exact ⟨hshorthand.escape b s, rfl⟩

/-! ## Sets -/

theorem leadingHyphens (h : Spelled s t) (b : Bool) :
    (Pattern.leadingHyphens b s).1 = (Pattern.leadingHyphens b t).1
      ∧ Spelled (Pattern.leadingHyphens b s).2 (Pattern.leadingHyphens b t).2 := by
  obtain ⟨heq, hrest⟩ := h.collect (p := (· == '-')) ⟨by decide, by decide, by decide⟩ b _ _ (Nat.le_refl _)
    (Nat.le_refl _)
  unfold Pattern.leadingHyphens
  simp only [heq]
  exact ⟨trivial, hrest⟩

theorem openingItems (h : Spelled s t) (b sign : Bool) {negated negated' : Bool}
    {items items' : List CharSet} (hs : Pattern.openingItems b sign s = .ok (negated, items, rest))
    (ht : Pattern.openingItems b sign t = .ok (negated', items', rest')) :
    negated = negated' ∧ List.Forall₂ CharSet.Reads items items' ∧ Spelled rest rest' := by
  have hhyphens := h.leadingHyphens b
  have hreads := leadingHyphens_reads b s
  unfold Pattern.openingItems at hs ht
  rcases hleft : Pattern.leadingHyphens b s with ⟨hyphens, left⟩
  rcases hright : Pattern.leadingHyphens b t with ⟨hyphens', left'⟩
  rw [hleft, hright] at hhyphens
  obtain ⟨rfl, hrest⟩ := hhyphens
  rw [hleft] at hs hreads
  rw [hright] at ht
  split at hs
  · cases hs
  · next heq =>
      cases heq
      obtain ⟨left', rfl, htail⟩ := hrest.cons_left (by decide) (by decide)
      have hskip := htail.skip b
      simp only at ht
      split at hs
      · cases hs
      · split at ht
        · cases ht
        · cases hs
          cases ht
          exact ⟨rfl, .cons (.of_ascii rfl) .nil, hskip⟩
  · next hclose heq =>
      cases heq
      split at ht
      · cases ht
      · next heq =>
          cases heq
          obtain ⟨left, rfl, -⟩ := hrest.cons_right (by decide) (by decide)
          exact (hclose _ rfl rfl).elim
      · next heq =>
          cases heq
          cases hs
          cases ht
          exact ⟨rfl, hreads, hrest⟩

theorem setSign (h : Spelled s t) (b : Bool) :
    (Pattern.setSign b s).1 = (Pattern.setSign b t).1
      ∧ Spelled (Pattern.setSign b s).2 (Pattern.setSign b t).2 := by
  by_cases hsign : ∃ s', s = '^' :: s'
  · obtain ⟨s', rfl⟩ := hsign
    obtain ⟨t', rfl, htail⟩ := h.cons_left (by decide) (by decide)
    exact ⟨rfl, htail.skip b⟩
  · rw [setSign_plain (not_exists.mp hsign),
      setSign_plain (h.ne_cons (by decide) (by decide) (not_exists.mp hsign))]
    exact ⟨rfl, h⟩

theorem setOpening (h : Spelled s t) (b : Bool) {negated negated' : Bool}
    {items items' : List CharSet} (hs : Pattern.setOpening b s = .ok (negated, items, rest))
    (ht : Pattern.setOpening b t = .ok (negated', items', rest')) :
    negated = negated' ∧ List.Forall₂ CharSet.Reads items items' ∧ Spelled rest rest' := by
  obtain ⟨hsign, hafter⟩ := (h.skip b).setSign b
  rw [setOpening_eq] at hs
  rw [setOpening_eq, ← hsign] at ht
  exact hafter.openingItems b _ hs ht

end Spelled

/-- What stands before an operator in both spellings. -/
inductive SameOperand : Option (SetOperator × CharSet) → Option (SetOperator × CharSet) → Prop
  | none : SameOperand none none
  | some (op : SetOperator) {x y : CharSet} (h : x.Reads y) :
      SameOperand (some (op, x)) (some (op, y))

theorem closeOperand_reads {pending pending' : Option (SetOperator × CharSet)}
    {items items' : List CharSet} (hpending : SameOperand pending pending')
    (hitems : List.Forall₂ CharSet.Reads items items') :
    (closeOperand pending items).Reads (closeOperand pending' items') := by
  have hreads := CharSet.Reads.ofItems (List.rel_reverse hitems)
  cases hpending with
  | none => exact hreads
  | some op hleft => exact hleft.operation hreads op

theorem setBody_skip (b negated : Bool) (pending : Option (SetOperator × CharSet))
    (items : List CharSet) (fuel : Nat) (s : List Char) :
    setBody b negated pending items fuel (skip b s) = setBody b negated pending items fuel s := by
  cases fuel with
  | zero => rfl
  | succ fuel => rw [setBody, setBody, skip_skip]

theorem setBody_bracket (b negated : Bool) (pending : Option (SetOperator × CharSet))
    (items : List CharSet) (fuel : Nat) (s : List Char) :
    setBody b negated pending items (fuel + 1) ('[' :: s)
      = (match namedSet? s with
        | some (item, rest) => setBody b negated pending (item :: items) fuel rest
        | none => do
          let (item, rest) ← setFrom b fuel s
          setBody b negated pending (item :: items) fuel rest) := by
  rw [setBody, skip_cons (by decide +kernel) (by decide)]
  cases hnamed : namedSet? s with
  | none => simp only [hnamed, setFrom, bind_assoc]
  | some _ => simp only [hnamed]

/-- A shorthand in a set, which is drawn from. -/
theorem setBody_shorthand {c : Char} {set : List Char} (hset : shorthand? c = some set)
    {b negated : Bool} {pending : Option (SetOperator × CharSet)} {items : List CharSet}
    {fuel : Nat} {s t : List Char} {x : CharSet} {r : CharSet × List Char}
    (hs : escape b (c :: s) = .ok (.set x, s))
    (ht : setBody b negated pending items fuel (set ++ t) = .ok r) :
    ∃ fuel' y, x.Reads y ∧ setBody b negated pending (y :: items) fuel' t = .ok r := by
  obtain ⟨_, _, _, front, hshorthand⟩ := shorthand?_read hset
  obtain rfl := hshorthand.text
  rw [hshorthand.escape] at hs
  cases hs
  cases fuel with
  | zero => cases ht
  | succ fuel =>
      rw [List.cons_append, setBody_bracket, hshorthand.namedSet?] at ht
      simp only at ht
      obtain ⟨⟨item, rest⟩, hitem, ht⟩ := ok_of_bind ht
      cases hshorthand.setFrom _ _ _ _ hitem
      exact ⟨fuel, _, .letter hshorthand.ascii?, ht⟩

/-- Whatever a reader with this amount of fuel reads from the middle of a set on where
it was written, a reader of the text that is drawn from reads alike. -/
def SetAlikeWithin (fuel : Nat) : Prop :=
  ∀ {fuel' : Nat} {b negated : Bool} {pending pending' : Option (SetOperator × CharSet)}
    {items items' : List CharSet} {s t rest rest' : List Char} {x y : CharSet}, Spelled s t →
    SameOperand pending pending' → List.Forall₂ CharSet.Reads items items' →
    setBody b negated pending items fuel s = .ok (x, rest) →
    setBody b negated pending' items' fuel' t = .ok (y, rest') →
    x.Reads y ∧ Spelled rest rest'

section Step

variable {fuel fuel' : Nat} {b negated : Bool} {pending pending' : Option (SetOperator × CharSet)}
  {items items' : List CharSet} {s t rest rest' : List Char} {x y : CharSet}

variable (ih : SetAlikeWithin fuel) (hpending : SameOperand pending pending')
  (hitems : List.Forall₂ CharSet.Reads items items')

include ih hpending hitems

/-- An operator, or an item that is no shorthand. -/
theorem SetAlikeWithin.item {c : Char} (h : Spelled (c :: s) (c :: t))
    (hskip : skip b (c :: s) = c :: s) (hskip' : skip b (c :: t) = c :: t) (hopen : c ≠ '[')
    (hclose : c ≠ ']') (hfront : ∀ d s', c :: s = '\\' :: d :: s' → shorthand? d = none)
    (hs : setBody b negated pending items (fuel + 1) (c :: s) = .ok (x, rest))
    (ht : setBody b negated pending' items' (fuel' + 1) (c :: t) = .ok (y, rest')) :
    x.Reads y ∧ Spelled rest rest' := by
  rw [setBody_item hskip hopen hclose] at hs
  rw [setBody_item hskip' hopen hclose] at ht
  obtain ⟨hop, hop'⟩ | ⟨op, left, left', hop, hop', hleft⟩ :=
    h.fixedReader fixedReader_setOperator?
  · rw [hop] at hs
    rw [hop'] at ht
    obtain ⟨⟨item, left⟩, hitem, hs⟩ := ok_of_bind hs
    obtain ⟨⟨item', left'⟩, hitem', ht⟩ := ok_of_bind ht
    obtain ⟨hreads, hleft⟩ := h.setRange b hfront hitem hitem'
    exact ih hleft hpending (.cons hreads hitems) hs ht
  · rw [hop] at hs
    rw [hop'] at ht
    exact ih hleft (.some op (closeOperand_reads hpending hitems)) .nil hs ht

/-- A set inside the set, by its name or in brackets of its own. -/
theorem SetAlikeWithin.bracket (h : Spelled s t)
    (hs : setBody b negated pending items (fuel + 1) ('[' :: s) = .ok (x, rest))
    (ht : setBody b negated pending' items' (fuel' + 1) ('[' :: t) = .ok (y, rest')) :
    x.Reads y ∧ Spelled rest rest' := by
  rw [setBody_bracket] at hs ht
  obtain ⟨hnamed, hnamed'⟩ | ⟨item, left, left', hnamed, hnamed', hleft⟩ :=
    h.fixedReader fixedReader_namedSet?
  · rw [hnamed] at hs
    rw [hnamed'] at ht
    obtain ⟨⟨item, left⟩, hitem, hs⟩ := ok_of_bind hs
    obtain ⟨⟨item', left'⟩, hitem', ht⟩ := ok_of_bind ht
    obtain ⟨⟨_, _, _⟩, hopening, hitem⟩ := ok_of_bind hitem
    obtain ⟨⟨_, _, _⟩, hopening', hitem'⟩ := ok_of_bind hitem'
    obtain ⟨rfl, hfirst, hinner⟩ := h.setOpening b hopening hopening'
    obtain ⟨hreads, hleft⟩ := ih hinner .none (List.rel_reverse hfirst) hitem hitem'
    exact ih hleft hpending (.cons hreads hitems) hs ht
  · rw [hnamed] at hs
    rw [hnamed'] at ht
    exact ih hleft hpending (.cons (namedSet?_reads hnamed) hitems) hs ht

/-- A shorthand, which is drawn from as a set inside the set. -/
theorem SetAlikeWithin.shorthand {c : Char} {set : List Char} (hset : shorthand? c = some set)
    (h : Spelled s t) (hskip : skip b ('\\' :: c :: s) = '\\' :: c :: s)
    (hs : setBody b negated pending items (fuel + 1) ('\\' :: c :: s) = .ok (x, rest))
    (ht : setBody b negated pending' items' fuel' (set ++ t) = .ok (y, rest')) :
    x.Reads y ∧ Spelled rest rest' := by
  rw [setBody_item hskip (by decide) (by decide)] at hs
  obtain ⟨⟨item, left⟩, hitem, hs⟩ := ok_of_bind hs
  obtain ⟨hescape, rfl⟩ := Spelled.setRange_shorthand hset b hitem
  obtain ⟨fuel', y', hreads, ht⟩ := setBody_shorthand hset hescape ht
  rw [← setBody_skip] at ht
  exact ih (h.skip b) hpending (.cons hreads hitems) hs ht

end Step

/-- Two readers from the middle of a set on, by induction on the fuel of the one that
reads the text as it was written. -/
theorem setAlikeWithin : ∀ fuel, SetAlikeWithin fuel := by
  intro fuel
  induction fuel with
  | zero =>
      intro _ _ _ _ _ _ _ _ _ _ _ _ _ _ _ _ hs _
      cases hs
  | succ fuel ih =>
      intro fuel' b negated pending pending' items items' s t rest rest' x y h hpending hitems hs ht
      cases fuel' with
      | zero => cases ht
      | succ fuel' =>
          rw [← setBody_skip] at hs ht
          have hskip := h.skip b
          have hskipped := skip_skip b s
          have hskipped' := skip_skip b t
          generalize skip b s = s, skip b t = t at hskip hskipped hskipped' hs ht
          cases hskip with
          | nil =>
              rw [setBody, hskipped] at hs
              cases hs
          | dollar =>
              rw [setBody, hskipped'] at ht
              cases ht
          | @plain c s t hc h =>
              by_cases hclose : c = ']'
              · subst hclose
                cases setBody_close hs
                cases setBody_close ht
                exact ⟨(closeOperand_reads hpending hitems).bracketed negated, h⟩
              · by_cases hopen : c = '['
                · subst hopen
                  exact ih.bracket hpending hitems h hs ht
                · exact ih.item hpending hitems (.plain hc h) hskipped hskipped' hopen hclose
                    (fun d s' heq => (hc (List.cons.inj heq).1).elim) hs ht
          | backslash =>
              exact ih.item hpending hitems .backslash hskipped hskipped' (by decide) (by decide)
                (fun d s' heq => by cases heq) hs ht
          | @escaped c s t hc h =>
              refine ih.item hpending hitems (.escaped hc h) hskipped hskipped' (by decide)
                (by decide) ?_ hs ht
              intro d s' heq
              cases heq
              exact hc
          | shorthand hset h => exact ih.shorthand hpending hitems hset h hskipped hs ht

/-- A set after its opening bracket. -/
theorem Spelled.set {b : Bool} {s t rest rest' : List Char} {x y : CharSet} (h : Spelled s t)
    (hs : Pattern.set b s = .ok (x, rest)) (ht : Pattern.set b t = .ok (y, rest')) :
    x.Reads y ∧ Spelled rest rest' := by
  obtain ⟨⟨_, _, _⟩, hopening, hs⟩ := ok_of_bind hs
  obtain ⟨⟨_, _, _⟩, hopening', ht⟩ := ok_of_bind ht
  obtain ⟨rfl, hfirst, hinner⟩ := h.setOpening b hopening hopening'
  exact setAlikeWithin _ hinner .none (List.rel_reverse hfirst) hs ht

end Specimen.Pattern
