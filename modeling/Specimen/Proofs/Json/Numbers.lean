import Specimen.Json.Printer
import Specimen.Json.Reader
import Specimen.Proofs.Decimal.Shortest
import Specimen.Proofs.Json.Valid

/-!
# Printed numbers read back

A printed number is a literal: digits, perhaps a fraction, perhaps an exponent. A literal is
read part by part up to a character that ends numbers (`readNumber?_literal`). What is left
is that the parts denote the number. The digits of an integer do; those of a floating-point
number are its shortest decimal however the point is set (`exists_literal`), and a point or
an exponent keeps it apart from the integers.
-/

namespace Specimen.Json

open Digits (decimal decimal_append decimal_zeros)

/-! ## Literals -/

/-- A number literal without its sign. -/
structure Literal where
  whole : List Char
  fraction : Option (List Char)
  exponent : Option Int

namespace Literal

def exponentText : Option Int → List Char
  | none => []
  | some e => 'e' :: (if e < 0 then '-' else '+') :: Decimal.digits e.natAbs

def fractionText : Option (List Char) → List Char
  | none => []
  | some ds => '.' :: ds

def text (l : Literal) : List Char :=
  l.whole ++ (fractionText l.fraction ++ exponentText l.exponent)

/-- The digits of a literal without the point. -/
def coefficient (l : Literal) : Nat := decimal (l.whole ++ l.fraction.getD [])

/-- The power of ten that the last digit of a literal counts. -/
def power (l : Literal) : Int := l.exponent.getD 0 - (l.fraction.getD []).length

/-- The parts of a literal have digits only, none of them is empty, and there is no zero in
front of other digits. -/
structure IsWritten (l : Literal) : Prop where
  whole : ∀ c ∈ l.whole, c.isDigit = true
  nonempty : l.whole ≠ []
  leading : l.whole.head? = some '0' → l.whole = ['0']
  fraction : ∀ ds ∈ l.fraction, ds ≠ [] ∧ ∀ c ∈ ds, c.isDigit = true

end Literal

/-- Whether a number before the text ends there. -/
def EndsNumber (rest : List Char) : Prop :=
  ∀ c ∈ rest.head?, c.isDigit = false ∧ c ≠ '.' ∧ c ≠ 'e' ∧ c ≠ 'E'

variable {rest : List Char}

/-! ## Reading the parts -/

theorem readDigits_append {ds : List Char} (hds : ∀ c ∈ ds, c.isDigit = true)
    (hrest : ∀ c ∈ rest.head?, c.isDigit = false) : readDigits (ds ++ rest) = (ds, rest) := by
  unfold readDigits
  rw [List.span_eq_takeWhile_dropWhile, List.takeWhile_append_of_pos hds,
    List.dropWhile_append_of_pos hds]
  cases rest with
  | nil => simp
  | cons c rest =>
      have hc : c.isDigit = false := hrest c rfl
      rw [List.takeWhile_cons_of_neg (by simp [hc]), List.dropWhile_cons_of_neg (by simp [hc]),
        List.append_nil]

theorem readWhole?_append {ds : List Char} (hds : ∀ c ∈ ds, c.isDigit = true) (hne : ds ≠ [])
    (hleading : ds.head? = some '0' → ds = ['0'])
    (hrest : ∀ c ∈ rest.head?, c.isDigit = false) : readWhole? (ds ++ rest) = some (ds, rest) := by
  unfold readWhole?
  rw [readDigits_append hds hrest]
  split
  · next heq => exact absurd (Prod.mk.inj heq).1 hne
  · next heq =>
      obtain ⟨rfl, -⟩ := Prod.mk.inj heq
      cases hleading rfl
  · rfl

theorem readFraction?_append {fraction : Option (List Char)}
    (hfraction : ∀ ds ∈ fraction, ds ≠ [] ∧ ∀ c ∈ ds, c.isDigit = true)
    (hrest : ∀ c ∈ rest.head?, c.isDigit = false ∧ c ≠ '.') :
    readFraction? (Literal.fractionText fraction ++ rest) = some (fraction, rest) := by
  cases fraction with
  | none =>
      show readFraction? rest = _
      unfold readFraction?
      split
      · next rest => exact absurd rfl (hrest '.' rfl).2
      · rfl
  | some ds =>
      obtain ⟨hne, hds⟩ := hfraction ds rfl
      have hread := readDigits_append hds fun c hc => (hrest c hc).1
      show readFraction? ('.' :: (ds ++ rest)) = _
      unfold readFraction?
      split
      · next heq =>
          rw [← (List.cons.inj heq).2, hread]
          split
          · next heq => exact absurd (Prod.mk.inj heq).1 hne
          · next heq =>
              obtain ⟨rfl, rfl⟩ := Prod.mk.inj heq
              rfl
      · next hother => exact absurd rfl (hother _)

theorem readExponent?_sign (negative : Bool) (s : List Char) :
    readExponent? ('e' :: (if negative then '-' else '+') :: s) = match readDigits s with
      | ([], _) => none
      | (ds, rest) => some (some (if negative then -(decimal ds : Int) else decimal ds), rest) := by
  cases negative <;> rfl

theorem readExponent?_append (exponent : Option Int) (hrest : EndsNumber rest) :
    readExponent? (Literal.exponentText exponent ++ rest) = some (exponent, rest) := by
  cases exponent with
  | none =>
      show readExponent? rest = _
      cases rest with
      | nil => rfl
      | cons c rest =>
          obtain ⟨-, -, hlower, hupper⟩ := hrest c rfl
          exact if_neg (by simp [hlower, hupper])
  | some e =>
      have hread := readExponent?_sign (decide (e < 0)) (Decimal.digits e.natAbs ++ rest)
      simp only [decide_eq_true_eq] at hread
      refine hread.trans ?_
      rw [readDigits_append (fun c => Decimal.isDigit_of_mem_digits) fun c hc => (hrest c hc).1]
      split
      · next heq => exact absurd (Prod.mk.inj heq).1 (Decimal.digits_ne_nil _)
      · next heq =>
          obtain ⟨rfl, rfl⟩ := Prod.mk.inj heq
          rw [Decimal.decimal_digits]
          congr 3
          split <;> omega

theorem head?_exponentText (exponent : Option Int) (hrest : EndsNumber rest) :
    ∀ c ∈ (Literal.exponentText exponent ++ rest).head?, c.isDigit = false ∧ c ≠ '.' := by
  cases exponent with
  | none => exact fun c hc => ⟨(hrest c hc).1, (hrest c hc).2.1⟩
  | some e =>
      rintro c ⟨⟩
      decide

theorem head?_fractionText (fraction : Option (List Char))
    (hrest : ∀ c ∈ rest.head?, c.isDigit = false) :
    ∀ c ∈ (Literal.fractionText fraction ++ rest).head?, c.isDigit = false := by
  cases fraction with
  | none => exact hrest
  | some ds =>
      rintro c ⟨⟩
      decide

/-- What is read behind the sign of a number. -/
def readUnsigned? (negative : Bool) (s : List Char) : Option (Number × List Char) := do
  let (whole, rest) ← readWhole? s
  let (fraction, rest) ← readFraction? rest
  let (exponent, rest) ← readExponent? rest
  let n ← numberOf? negative whole fraction exponent
  return (n, rest)

theorem readNumber?_minus (s : List Char) : readNumber? ('-' :: s) = readUnsigned? true s := rfl

theorem readNumber?_unsigned {s : List Char} (h : s.head? ≠ some '-') :
    readNumber? s = readUnsigned? false s := by
  unfold readNumber?
  split
  next heq =>
    split at heq
    · exact absurd rfl h
    · obtain ⟨rfl, rfl⟩ := Prod.mk.inj heq
      rfl

theorem readUnsigned?_literal {l : Literal} (h : l.IsWritten) (negative : Bool)
    (hrest : EndsNumber rest) :
    readUnsigned? negative (l.text ++ rest)
      = (numberOf? negative l.whole l.fraction l.exponent).map (·, rest) := by
  have hexponent := head?_exponentText l.exponent hrest
  have hwhole := readWhole?_append h.whole h.nonempty h.leading
    (head?_fractionText l.fraction fun c hc => (hexponent c hc).1)
  unfold readUnsigned? Literal.text
  rw [List.append_assoc, List.append_assoc, hwhole]
  dsimp only [bind, Option.bind]
  rw [readFraction?_append h.fraction hexponent]
  dsimp only
  rw [readExponent?_append l.exponent hrest]
  dsimp only
  cases numberOf? negative l.whole l.fraction l.exponent <;> rfl

theorem Literal.IsWritten.exists_text_eq {l : Literal} (h : l.IsWritten) :
    ∃ c s, l.text = c :: s ∧ c.isDigit = true := by
  obtain ⟨c, ds, hcons⟩ := List.exists_cons_of_ne_nil h.nonempty
  refine ⟨c, ds ++ (fractionText l.fraction ++ exponentText l.exponent), ?_,
    h.whole c (hcons ▸ List.mem_cons_self)⟩
  unfold Literal.text
  rw [hcons, List.cons_append]

/-- The text of a number with a sign. -/
def signed (negative : Bool) (text : List Char) : List Char :=
  if negative then '-' :: text else text

/-- A literal is read part by part. -/
theorem readNumber?_literal {l : Literal} (h : l.IsWritten) (negative : Bool)
    (hrest : EndsNumber rest) :
    readNumber? (signed negative l.text ++ rest)
      = (numberOf? negative l.whole l.fraction l.exponent).map (·, rest) := by
  rw [← readUnsigned?_literal h negative hrest]
  cases negative with
  | true => exact readNumber?_minus _
  | false =>
      obtain ⟨c, s, htext, hc⟩ := h.exists_text_eq
      refine readNumber?_unsigned (s := l.text ++ rest) fun hminus => ?_
      rw [htext] at hminus
      cases hminus
      exact absurd hc (by decide)

/-! ## Integers -/

theorem leading_digits (n : Nat) (h : (Decimal.digits n).head? = some '0') :
    Decimal.digits n = ['0'] := by
  rcases Nat.eq_zero_or_pos n with rfl | hpos
  · exact Decimal.digits_of_lt (by decide)
  · exact absurd h (Decimal.head?_digits hpos)

theorem isWritten_digits (n : Nat) : (⟨Decimal.digits n, none, none⟩ : Literal).IsWritten where
  whole _ := Decimal.isDigit_of_mem_digits
  nonempty := Decimal.digits_ne_nil n
  leading := leading_digits n
  fraction := nofun

/-- How a number is printed: as a literal that stands for it. -/
structure Literal.Prints (l : Literal) (negative : Bool) (n : Number) : Prop where
  text : writeNumber n = signed negative l.text
  isWritten : l.IsWritten
  number : numberOf? negative l.whole l.fraction l.exponent = some n

/-- An integer of 64 bits, with or without a sign, stands for itself. -/
theorem prints_int {n : Int} (hmin : int64Min ≤ n) (hmax : n ≤ uint64Max) :
    (⟨Decimal.digits n.natAbs, none, none⟩ : Literal).Prints (decide (n < 0)) (.int n) where
  text := by
    show writeInt n = _
    unfold writeInt signed Literal.text Literal.fractionText Literal.exponentText
    simp
  isWritten := isWritten_digits _
  number := by
    unfold int64Min at hmin
    unfold uint64Max at hmax
    unfold numberOf?
    dsimp only
    rw [Decimal.decimal_digits]
    by_cases hneg : n < 0
    · have hin : 0 < n.natAbs ∧ n.natAbs ≤ 0x8000_0000_0000_0000 := by omega
      have hsize : -(n.natAbs : Int) = n := by omega
      rw [decide_eq_true hneg, decide_eq_true hin.1, decide_eq_true hin.2]
      simp only [Option.isNone_none, Bool.and_self, if_true, hsize]
    · have hin : n.natAbs ≤ uint64Max := by unfold uint64Max; omega
      have hsize : (n.natAbs : Int) = n := by omega
      rw [decide_eq_false hneg, decide_eq_true hin]
      simp only [Option.isNone_none, Bool.and_self, if_true, Bool.false_eq_true, if_false, hsize]

/-! ## Digits with a point -/

/-- A literal that is no integer and sets out digits with the decimal point after the first
`point` of them. -/
structure Literal.SetsOut (l : Literal) (ds : List Char) (point : Int) : Prop where
  isWritten : l.IsWritten
  notInteger : l.fraction ≠ none ∨ l.exponent ≠ none
  value : (l.coefficient : Rat) * 10 ^ l.power = decimal ds * 10 ^ (point - ds.length)

open Decimal (zeros digits)

/-- A zero may stand for the digits on either side of a point. -/
theorem isWritten_zero : ['0'] ≠ [] ∧ ∀ c ∈ ['0'], c.isDigit = true :=
  ⟨List.cons_ne_nil _ _, List.forall_mem_singleton.mpr (by decide)⟩

theorem isDigit_of_mem_zeros {count : Int} {c : Char} (h : c ∈ zeros count) : c.isDigit = true := by
  rw [List.eq_of_mem_replicate h]
  decide

theorem length_zeros (count : Int) : (zeros count).length = count.toNat := List.length_replicate

variable {ds : List Char} {point : Int}

theorem setsOut_before (hds : ∀ c ∈ ds, c.isDigit = true) (hne : ds ≠ []) (hpoint : point ≤ 0) :
    (⟨['0'], some (zeros (-point) ++ ds), none⟩ : Literal).SetsOut ds point where
  isWritten :=
    { whole := by simp
      nonempty := by simp
      leading := fun _ => rfl
      fraction := by
        rintro _ ⟨⟩
        refine ⟨by simp [hne], fun c hc => ?_⟩
        exact (List.mem_append.mp hc).elim isDigit_of_mem_zeros (hds c) }
  notInteger := .inl nofun
  value := by
    have hcoefficient : decimal (['0'] ++ (zeros (-point) ++ ds)) = decimal ds := by
      rw [decimal_append, decimal_append]
      unfold zeros
      rw [decimal_zeros]
      simp [decimal]
    have hpower : (0 : Int) - (zeros (-point) ++ ds).length = point - ds.length := by
      rw [List.length_append, length_zeros]
      omega
    unfold Literal.coefficient Literal.power
    rw [Option.getD_some, Option.getD_none, hcoefficient, hpower]

theorem setsOut_after (hds : ∀ c ∈ ds, c.isDigit = true) (hne : ds ≠ [])
    (hhead : ds.head? ≠ some '0') (hpoint : (ds.length : Int) ≤ point) :
    (⟨ds ++ zeros (point - ds.length), some ['0'], none⟩ : Literal).SetsOut ds point where
  isWritten :=
    { whole := fun c hc => (List.mem_append.mp hc).elim (hds c) isDigit_of_mem_zeros
      nonempty := by simp [hne]
      leading := fun hfirst => by
        rw [List.head?_append_of_ne_nil _ hne] at hfirst
        exact absurd hfirst hhead
      fraction := by
        rintro _ ⟨⟩
        exact isWritten_zero }
  notInteger := .inl nofun
  value := by
    have hcoefficient : decimal (ds ++ zeros (point - ds.length) ++ ['0'])
        = 10 * (10 ^ (point - ds.length).toNat * decimal ds) := by
      rw [decimal_append, decimal_append]
      unfold zeros
      rw [decimal_zeros, List.length_replicate]
      simp [decimal]
    have hpower : (10 : Rat) ^ (point - ds.length) = 10 ^ (point - ds.length).toNat := by
      conv_lhs => rw [← Int.toNat_of_nonneg (by omega : 0 ≤ point - ds.length)]
      exact zpow_natCast _ _
    unfold Literal.coefficient Literal.power
    rw [Option.getD_some, Option.getD_none, hcoefficient, hpower]
    norm_num
    ring

theorem setsOut_inside (hds : ∀ c ∈ ds, c.isDigit = true) (hhead : ds.head? ≠ some '0')
    (hpos : 0 < point) (hpoint : point < ds.length) :
    (⟨ds.take point.toNat, some (ds.drop point.toNat), none⟩ : Literal).SetsOut ds point where
  isWritten :=
    { whole := fun c hc => hds c (List.mem_of_mem_take hc)
      nonempty := by
        refine List.ne_nil_of_length_pos ?_
        rw [List.length_take]
        omega
      leading := fun hfirst => by
        rw [List.head?_take, if_neg (by omega)] at hfirst
        exact absurd hfirst hhead
      fraction := by
        rintro _ ⟨⟩
        refine ⟨List.ne_nil_of_length_pos ?_, fun c hc => hds c (List.mem_of_mem_drop hc)⟩
        rw [List.length_drop]
        omega }
  notInteger := .inl nofun
  value := by
    have hpower : (0 : Int) - (ds.drop point.toNat).length = point - ds.length := by
      rw [List.length_drop]
      omega
    unfold Literal.coefficient Literal.power
    rw [Option.getD_some, Option.getD_none, List.take_append_drop, hpower]

/-- Digits with a point and no exponent. -/
theorem exists_positional (hds : ∀ c ∈ ds, c.isDigit = true) (hne : ds ≠ [])
    (hhead : ds.head? ≠ some '0') (point : Int) :
    ∃ l : Literal, Decimal.positional true ds point = l.text ∧ l.SetsOut ds point := by
  unfold Decimal.positional
  split
  · next hbefore =>
      refine ⟨_, ?_, setsOut_before hds hne hbefore⟩
      simp [Literal.text, Literal.fractionText, Literal.exponentText]
  · split
    · next hafter =>
        refine ⟨_, ?_, setsOut_after hds hne hhead hafter⟩
        simp [Literal.text, Literal.fractionText, Literal.exponentText]
    · next hinside =>
        refine ⟨_, ?_, setsOut_inside hds hhead (by omega) (by omega)⟩
        simp [Literal.text, Literal.fractionText, Literal.exponentText]

/-- Digits with a point after the first, unless there is only one, and an exponent. -/
theorem exists_scientific (hds : ∀ c ∈ ds, c.isDigit = true) (hne : ds ≠ [])
    (hhead : ds.head? ≠ some '0') (point : Int) :
    ∃ l : Literal, Decimal.scientific ds point = l.text ∧ l.SetsOut ds point := by
  obtain ⟨first, more, rfl⟩ := List.exists_cons_of_ne_nil hne
  have hfirst := hds first List.mem_cons_self
  have hmore (c : Char) (hc : c ∈ more) := hds c (List.mem_cons_of_mem _ hc)
  have hleading : [first].head? = some '0' → [first] = ['0'] := by simp
  cases more with
  | nil =>
      refine ⟨⟨[first], none, some (point - 1)⟩, rfl, ⟨by simpa, by simp, hleading, nofun⟩,
        .inr nofun, ?_⟩
      simp [Literal.coefficient, Literal.power]
  | cons second more =>
      refine ⟨⟨[first], some (second :: more), some (point - 1)⟩, rfl,
        ⟨by simpa, by simp, hleading, ?_⟩, .inl nofun, ?_⟩
      · rintro _ ⟨⟩
        exact ⟨by simp, hmore⟩
      · have hpower : point - 1 - (second :: more).length
            = point - (first :: second :: more).length := by
          rw [List.length_cons (a := first)]
          push_cast
          ring
        unfold Literal.coefficient Literal.power
        rw [Option.getD_some, Option.getD_some, hpower]
        rfl

/-! ## Floating-point numbers -/

variable {x : Double}

/-- A finite number is written as a literal that is no integer and is read as the number. -/
theorem exists_literal (hx : x.isFinite = true) :
    ∃ l : Literal, Decimal.Layout.document.size x = l.text ∧ l.IsWritten
      ∧ (l.fraction ≠ none ∨ l.exponent ≠ none)
      ∧ Decimal.nearest x.isNegative l.coefficient l.power = x := by
  unfold Decimal.Layout.size
  by_cases hzero : x.magnitude = 0
  · refine ⟨⟨['0'], some ['0'], none⟩, ?_, ⟨isWritten_zero.2, by decide, by decide, ?_⟩, .inl nofun,
      ?_⟩
    · rw [if_pos hzero]
      rfl
    · rintro _ ⟨⟩
      exact isWritten_zero
    · have hback := Double.ofMagnitude_magnitude x
      rw [hzero] at hback
      exact hback
  · rw [if_neg hzero]
    obtain ⟨hrounds, hpos⟩ := Decimal.shortest_spec Decimal.Layout.document.tie hzero
    generalize Decimal.shortest Decimal.Layout.document.tie x = d at hrounds hpos ⊢
    have hds (c : Char) (hc : c ∈ digits d.coefficient) := Decimal.isDigit_of_mem_digits hc
    have hne := Decimal.digits_ne_nil d.coefficient
    have hhead := Decimal.head?_digits hpos
    have hread (l : Literal) (h : l.SetsOut (digits d.coefficient)
        (d.exponent + (digits d.coefficient).length)) :
        Decimal.nearest x.isNegative l.coefficient l.power = x := by
      have hvalue := h.value
      rw [Decimal.decimal_digits, Int.add_sub_cancel] at hvalue
      have hcoefficient : 0 < l.coefficient := by
        have hpositive := Decimal.pos_of_roundsTo hzero hrounds
        refine Nat.pos_of_ne_zero fun hnone => ?_
        rw [hnone, Nat.cast_zero, zero_mul] at hvalue
        exact hpositive.ne hvalue
      refine Decimal.nearest_of_roundsTo hx hzero hcoefficient ?_
      rw [hvalue]
      exact hrounds
    dsimp only
    split
    · obtain ⟨l, htext, hl⟩ := exists_positional hds hne hhead _
      exact ⟨l, htext, hl.isWritten, hl.notInteger, hread l hl⟩
    · obtain ⟨l, htext, hl⟩ := exists_scientific hds hne hhead _
      exact ⟨l, htext, hl.isWritten, hl.notInteger, hread l hl⟩

/-- A finite floating-point number stands for itself, and is never read as an integer. -/
theorem exists_prints_float (hx : x.isFinite = true) :
    ∃ l : Literal, l.Prints x.isNegative (.float x) := by
  obtain ⟨l, htext, hwritten, hpoint, hvalue⟩ := exists_literal hx
  refine ⟨l, ?_, hwritten, ?_⟩
  · show (Decimal.Layout.document.write x).toList = _
    unfold Decimal.Layout.write signed
    rw [Double.isNaN_of_isFinite hx, Double.isInfinite_of_isFinite hx, htext]
    simp
  · have hinteger : (l.fraction.isNone && l.exponent.isNone) = false := by
      cases hfraction : l.fraction <;> cases hexponent : l.exponent <;> simp_all
    unfold Literal.coefficient Literal.power at hvalue
    unfold numberOf?
    dsimp only
    rw [hvalue, hinteger, Bool.false_and, if_neg (by decide), if_pos hx]

/-! ## Numbers of documents -/

variable {n : Number}

theorem exists_prints (h : n.IsValid) : ∃ negative, ∃ l : Literal, l.Prints negative n := by
  cases h with
  | int hmin hmax => exact ⟨_, _, prints_int hmin hmax⟩
  | float hx => exact ⟨_, exists_prints_float hx⟩

/-- A number is read up to where it ends. -/
theorem readNumber?_writeNumber (h : n.IsValid) (hrest : EndsNumber rest) :
    readNumber? (writeNumber n ++ rest) = some (n, rest) := by
  obtain ⟨negative, l, hl⟩ := exists_prints h
  rw [hl.text, readNumber?_literal hl.isWritten negative hrest, hl.number]
  rfl

theorem head_writeNumber (h : n.IsValid) :
    ∃ c s, writeNumber n = c :: s ∧ (c = '-' ∨ c.isDigit = true) := by
  obtain ⟨negative, l, hl⟩ := exists_prints h
  rw [hl.text]
  cases negative with
  | true => exact ⟨'-', l.text, rfl, .inl rfl⟩
  | false =>
      obtain ⟨c, s, htext, hc⟩ := hl.isWritten.exists_text_eq
      exact ⟨c, s, htext, .inr hc⟩

end Specimen.Json
