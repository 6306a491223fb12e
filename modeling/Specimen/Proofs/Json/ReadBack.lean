import Specimen.Proofs.Json.Numbers
import Specimen.Proofs.Json.Valid

/-!
# Printed documents read back

What is printed for a document is read as the document, whatever stands around it
(`readValue?_write`), in each style whose line breaks are blank. Reading goes as deep as the
document is nested, so it succeeds just if that is allowed. The fuel of the reader is counted
against the printed text, of which every second call takes a character.
-/

namespace Specimen.Json

variable {rest : List Char}

/-! ## Strings -/

theorem hexValue?_hexDigit : ∀ n < 16, Digits.hexValue? (hexDigit n) = some n := by
  decide

/-- A character that is escaped by its number. -/
theorem readEscapedUnit?_hexDigits {c : Char} (hc : c.toNat < 0x20) (s : List Char) :
    readEscapedUnit? ('0' :: '0' :: hexDigit (c.toNat / 16) :: hexDigit (c.toNat % 16) :: s)
      = some (c, s) := by
  have hzero : Digits.hexValue? '0' = some 0 := by decide
  have hunit : readUnit?
      ('0' :: '0' :: hexDigit (c.toNat / 16) :: hexDigit (c.toNat % 16) :: s)
        = some (c.toNat, s) := by
    simp only [readUnit?, hzero, hexValue?_hexDigit (c.toNat / 16) (by omega),
      hexValue?_hexDigit (c.toNat % 16) (by omega), bind, Option.bind, pure]
    congr 2
    omega
  unfold readEscapedUnit?
  rw [hunit]
  dsimp only [bind, Option.bind]
  rw [if_neg (by omega), if_neg (by omega), Char.ofNat_toNat]

/-- A printed character is read as the character. -/
theorem readString?_escape (fuel : Nat) (done : List Char) (c : Char) (s : List Char) :
    readString? (fuel + 1) done (escape c ++ s) = readString? fuel (c :: done) s := by
  have hescaped {e : Char} {t : List Char} (hread : readEscape? (e :: t) = some (c, s)) :
      readString? (fuel + 1) done ('\\' :: e :: t) = readString? fuel (c :: done) s := by
    show (if '\\' = '"' then _ else if '\\' = '\\' then _ else _) = _
    rw [if_neg (by decide), if_pos rfl, hread]
  unfold escape
  split
  · next h => subst h; exact hescaped rfl
  split
  · next h => subst h; exact hescaped rfl
  split
  · next h => subst h; exact hescaped rfl
  split
  · next h => subst h; exact hescaped rfl
  split
  · next h => subst h; exact hescaped rfl
  split
  · next h => subst h; exact hescaped rfl
  split
  · next h => subst h; exact hescaped rfl
  split
  · next h => exact hescaped (readEscapedUnit?_hexDigits h s)
  · next hquote hslash _ _ _ _ _ hcontrol =>
      show (if c = '"' then _ else if c = '\\' then _ else if c.toNat < 0x20 then _ else _) = _
      rw [if_neg hquote, if_neg hslash, if_neg hcontrol]
      rfl

theorem readString?_flatMap_escape (cs : List Char) : ∀ (fuel : Nat) (done : List Char),
    cs.length < fuel → readString? fuel done (cs.flatMap escape ++ '"' :: rest)
      = some (.ofList (done.reverse ++ cs), rest) := by
  induction cs with
  | nil =>
      intro fuel done hfuel
      obtain ⟨fuel, rfl⟩ : ∃ n, fuel = n + 1 := ⟨fuel - 1, by simp at hfuel; omega⟩
      rw [List.append_nil]
      exact if_pos rfl
  | cons c cs ih =>
      intro fuel done hfuel
      rw [List.length_cons] at hfuel
      obtain ⟨fuel, rfl⟩ : ∃ n, fuel = n + 1 := ⟨fuel - 1, by omega⟩
      rw [List.flatMap_cons, List.append_assoc, readString?_escape, ih _ _ (by omega),
        List.reverse_cons, List.append_assoc, List.singleton_append]

theorem length_flatMap_escape (cs : List Char) : cs.length ≤ (cs.flatMap escape).length := by
  have hescape (c : Char) : 0 < (escape c).length := by
    unfold escape
    repeat (first | split | simp)
  induction cs with
  | nil => exact le_rfl
  | cons c cs ih =>
      have := hescape c
      rw [List.flatMap_cons, List.length_append, List.length_cons]
      omega

/-- A printed string is read up to its closing quote. -/
theorem readString?_quote (s : String) (rest : List Char) :
    ∃ text, quote s ++ rest = '"' :: text
      ∧ readString? (text.length + 1) [] text = some (s, rest) := by
  refine ⟨s.toList.flatMap escape ++ '"' :: rest, by simp [quote], ?_⟩
  have hlength := length_flatMap_escape s.toList
  rw [readString?_flatMap_escape _ _ _ (by rw [List.length_append]; omega)]
  simp

/-! ## Blanks -/

/-- The style sets the parts of a document apart by blanks only. -/
structure Style.IsBlank (style : Style) : Prop where
  lineBreak : ∀ depth, ∀ c ∈ style.lineBreak depth, isBlank c = true
  afterColon : ∀ c ∈ style.afterColon, isBlank c = true

theorem Style.isBlank_compact : Style.compact.IsBlank where
  lineBreak _ _ h := by cases h
  afterColon _ h := by cases h

theorem Style.isBlank_indented : Style.indented.IsBlank where
  lineBreak depth c h := by
    rcases List.mem_cons.mp h with rfl | h
    · decide
    · rw [List.eq_of_mem_replicate h]
      decide
  afterColon := List.forall_mem_singleton.mpr (by decide)

theorem skipBlanks_append {b s : List Char} (hb : ∀ c ∈ b, isBlank c = true) :
    skipBlanks (b ++ s) = skipBlanks s := List.dropWhile_append_of_pos hb

theorem skipBlanks_cons {c : Char} (h : isBlank c = false) (s : List Char) :
    skipBlanks (c :: s) = c :: s := List.dropWhile_cons_of_neg (by simp [h])

variable {s t : List Char}

/-- Blanks before a value do not count. -/
theorem readValue?_congr (fuel depth : Nat) (h : skipBlanks s = skipBlanks t) :
    readValue? fuel depth s = readValue? fuel depth t := by
  cases fuel with
  | zero => rfl
  | succ fuel => rw [readValue?, readValue?, h]

theorem readItems?_congr (fuel depth : Nat) (done : List Json) (h : skipBlanks s = skipBlanks t) :
    readItems? fuel depth done s = readItems? fuel depth done t := by
  cases fuel with
  | zero => rfl
  | succ fuel => rw [readItems?, readItems?, readValue?_congr fuel depth h]

theorem readFields?_congr (fuel depth : Nat) (done : List (String × Json))
    (h : skipBlanks s = skipBlanks t) :
    readFields? fuel depth done s = readFields? fuel depth done t := by
  cases fuel with
  | zero => rfl
  | succ fuel => rw [readFields?, readFields?, h]

theorem endsNumber_cons {c : Char}
    (h : c.isDigit = false ∧ c ≠ '.' ∧ c ≠ 'e' ∧ c ≠ 'E') (s : List Char) :
    EndsNumber (c :: s) := by
  rintro _ ⟨⟩
  exact h

theorem endsNumber_append {b s : List Char} (hb : ∀ c ∈ b, isBlank c = true) (hs : EndsNumber s) :
    EndsNumber (b ++ s) := by
  cases b with
  | nil => exact hs
  | cons c b =>
      refine endsNumber_cons ?_ _
      have hc := hb c List.mem_cons_self
      unfold isBlank at hc
      simp only [Bool.or_eq_true, decide_eq_true_eq] at hc
      rcases hc with ((rfl | rfl) | rfl) | rfl <;> decide

/-! ## Nesting -/

mutual

/-- How many containers of a document are open at once. -/
def nesting : Json → Nat
  | array items => nestingItems items + 1
  | object fields => nestingFields fields + 1
  | _ => 0

def nestingItems : List Json → Nat
  | [] => 0
  | item :: rest => max (nesting item) (nestingItems rest)

def nestingFields : List (String × Json) → Nat
  | [] => 0
  | (_, value) :: rest => max (nesting value) (nestingFields rest)

end

theorem nesting_le_nestingItems {items : List Json} {item : Json} (h : item ∈ items) :
    item.nesting ≤ nestingItems items := by
  induction items with
  | nil => cases h
  | cons first rest ih =>
      rcases List.mem_cons.mp h with rfl | h
      · exact Nat.le_max_left ..
      · exact le_trans (ih h) (Nat.le_max_right ..)

/-! ## Documents -/

/-- What a number starts with is no character that has another meaning. -/
theorem ne_of_startsNumber {c e : Char} (hc : c = '-' ∨ c.isDigit = true) (he : e ≠ '-')
    (hdigit : e.isDigit = false) : c ≠ e := by
  rintro rfl
  rcases hc with hc | hc
  · exact he hc
  · rw [hdigit] at hc
    cases hc

theorem isBlank_of_startsNumber {c : Char} (hc : c = '-' ∨ c.isDigit = true) :
    isBlank c = false := by
  unfold isBlank
  simp only [Bool.or_eq_false_iff, decide_eq_false_iff_not]
  refine ⟨⟨⟨?_, ?_⟩, ?_⟩, ?_⟩ <;> exact ne_of_startsNumber hc (by decide) (by decide)

/-- A printed document starts with a character of its own. -/
theorem write_head (style : Style) (k : Nat) {d : Json} (h : d.IsValid) :
    ∃ c s, d.write style k = c :: s ∧ isBlank c = false ∧ c ≠ ']' := by
  cases h with
  | null => exact ⟨'n', _, rfl, by decide, by decide⟩
  | bool b => cases b <;> exact ⟨_, _, rfl, by decide, by decide⟩
  | number h =>
      obtain ⟨c, s, hwrite, hc⟩ := head_writeNumber h
      exact ⟨c, s, hwrite, isBlank_of_startsNumber hc,
        ne_of_startsNumber hc (by decide) (by decide)⟩
  | string s => exact ⟨'"', _, rfl, by decide, by decide⟩
  | @array items h => cases items <;> exact ⟨'[', _, rfl, by decide, by decide⟩
  | @object fields hordered h => cases fields <;> exact ⟨'\x7b', _, rfl, by decide, by decide⟩

/-! ## Opened containers -/

theorem readValue?_number {c : Char} (hc : c = '-' ∨ c.isDigit = true) (fuel depth : Nat)
    (s : List Char) : readValue? (fuel + 1) depth (c :: s)
      = (readNumber? (c :: s)).map fun (n, rest) => (.number n, rest) := by
  rw [readValue?, skipBlanks_cons (isBlank_of_startsNumber hc)]
  split <;> first
    | rfl
    | next heq =>
        exact absurd (List.cons.inj heq).1 (ne_of_startsNumber hc (by decide) (by decide))

theorem skipBlanks_skipBlanks (s : List Char) : skipBlanks (skipBlanks s) = skipBlanks s := by
  induction s with
  | nil => rfl
  | cons c s ih =>
      cases hc : isBlank c with
      | false => rw [skipBlanks_cons hc, skipBlanks_cons hc]
      | true =>
          have hskip : skipBlanks (c :: s) = skipBlanks s := List.dropWhile_cons_of_pos hc
          rw [hskip, ih]

theorem readValue?_array (fuel depth : Nat) (h : (skipBlanks s).head? ≠ some ']') :
    readValue? (fuel + 1) (depth + 1) ('[' :: s)
      = (readItems? fuel depth [] s).map fun (items, rest) => (.array items, rest) := by
  rw [readValue?, skipBlanks_cons (by decide)]
  split
  case h_5 hopen =>
    rw [← (List.cons.inj hopen).2]
    dsimp only
    split
    · next hclose =>
        rw [hclose] at h
        exact absurd rfl h
    · rw [readItems?_congr fuel depth [] (skipBlanks_skipBlanks s)]
  case h_7 hother _ => exact absurd rfl (hother s)
  all_goals next hopen => exact absurd (List.cons.inj hopen).1 (by decide)

theorem readValue?_object (fuel depth : Nat) (h : (skipBlanks s).head? ≠ some '\x7d') :
    readValue? (fuel + 1) (depth + 1) ('\x7b' :: s)
      = (readFields? fuel depth [] s).map fun (fields, rest) => (.object fields, rest) := by
  rw [readValue?, skipBlanks_cons (by decide)]
  split
  case h_6 hopen =>
    rw [← (List.cons.inj hopen).2]
    dsimp only
    split
    · next hclose =>
        rw [hclose] at h
        exact absurd rfl h
    · rw [readFields?_congr fuel depth [] (skipBlanks_skipBlanks s)]
  case h_7 hother => exact absurd rfl (hother s)
  all_goals next hopen => exact absurd (List.cons.inj hopen).1 (by decide)

/-- What follows an item decides whether there is another one. -/
theorem readItems?_comma {fuel depth : Nat} {done : List Json} {item : Json}
    (h : readValue? fuel depth s = some (item, t)) (ht : skipBlanks t = ',' :: rest) :
    readItems? (fuel + 1) depth done s = readItems? fuel depth (item :: done) rest := by
  rw [readItems?, h]
  dsimp only
  rw [ht]
  rfl

theorem readItems?_last {fuel depth : Nat} {done : List Json} {item : Json}
    (h : readValue? fuel depth s = some (item, t)) (ht : skipBlanks t = ']' :: rest) :
    readItems? (fuel + 1) depth done s = some ((item :: done).reverse, rest) := by
  rw [readItems?, h]
  dsimp only
  rw [ht]
  rfl

theorem readItems?_stop {fuel depth : Nat} {done : List Json}
    (h : readValue? fuel depth s = none) : readItems? (fuel + 1) depth done s = none := by
  rw [readItems?, h]

/-- The text of a field: its name, a colon and its value. -/
def fieldText (name : String) (b c s : List Char) : List Char :=
  b ++ (quote name ++ ':' :: (c ++ s))

section Fields

variable {fuel depth : Nat} {done : List (String × Json)} {name : String} {b c : List Char}
variable {value : Json}

/-- Past the name of a field its value is read, and what follows decides whether there is
another field. -/
theorem readFields?_name (hb : ∀ e ∈ b, isBlank e = true) (hc : ∀ e ∈ c, isBlank e = true) :
    readFields? (fuel + 1) depth done (fieldText name b c s)
      = (readValue? fuel depth s).bind fun read =>
          if (skipBlanks read.2).head? = some ',' then
            readFields? fuel depth ((name, read.1) :: done) (skipBlanks read.2).tail
          else if (skipBlanks read.2).head? = some '\x7d' then
            some (((name, read.1) :: done).reverse, (skipBlanks read.2).tail)
          else none := by
  obtain ⟨text, hquote, hread⟩ := readString?_quote name (':' :: (c ++ s))
  have hvalue : readValue? fuel depth (c ++ s) = readValue? fuel depth s :=
    readValue?_congr fuel depth (skipBlanks_append hc)
  unfold fieldText
  rw [readFields?, skipBlanks_append hb, hquote, skipBlanks_cons (by decide)]
  split
  case h_2 hother => exact absurd rfl (hother text)
  case h_1 hopen =>
    rw [← (List.cons.inj hopen).2, hread]
    dsimp only
    rw [skipBlanks_cons (by decide)]
    split
    case h_2 hother => exact absurd rfl (hother (c ++ s))
    case h_1 hcolon =>
      rw [← (List.cons.inj hcolon).2, hvalue]
      cases readValue? fuel depth s with
      | none => rfl
      | some read =>
          dsimp only [Option.bind]
          split
          · next hnext =>
              rw [hnext]
              exact (if_pos rfl).symm
          · next hnext =>
              rw [hnext, if_neg (by simp)]
              exact (if_pos rfl).symm
          · next hcomma hclose =>
              rw [if_neg, if_neg]
              · exact fun h => hclose _ (List.eq_cons_of_mem_head? h)
              · exact fun h => hcomma _ (List.eq_cons_of_mem_head? h)

theorem readFields?_comma (hb : ∀ e ∈ b, isBlank e = true) (hc : ∀ e ∈ c, isBlank e = true)
    (h : readValue? fuel depth s = some (value, t)) (ht : skipBlanks t = ',' :: rest) :
    readFields? (fuel + 1) depth done (fieldText name b c s)
      = readFields? fuel depth ((name, value) :: done) rest := by
  rw [readFields?_name hb hc, h, Option.bind_some, ht]
  exact if_pos rfl

theorem readFields?_last (hb : ∀ e ∈ b, isBlank e = true) (hc : ∀ e ∈ c, isBlank e = true)
    (h : readValue? fuel depth s = some (value, t)) (ht : skipBlanks t = '\x7d' :: rest) :
    readFields? (fuel + 1) depth done (fieldText name b c s)
      = some (((name, value) :: done).reverse, rest) := by
  rw [readFields?_name hb hc, h, Option.bind_some, ht, if_neg (by simp)]
  exact if_pos rfl

theorem readFields?_stop (hb : ∀ e ∈ b, isBlank e = true) (hc : ∀ e ∈ c, isBlank e = true)
    (h : readValue? fuel depth s = none) :
    readFields? (fuel + 1) depth done (fieldText name b c s) = none := by
  rw [readFields?_name hb hc, h, Option.bind_none]

end Fields

/-! ## Documents -/

variable {style : Style}

/-- The text of items up to the end of their array. -/
def itemsText (style : Style) (k : Nat) (items : List Json) (rest : List Char) : List Char :=
  writeItems style k items ++ (style.lineBreak (k - 1) ++ ']' :: rest)

theorem write_array (style : Style) (k : Nat) (item : Json) (more : List Json) :
    write style k (array (item :: more)) ++ rest
      = '[' :: itemsText style (k + 1) (item :: more) rest := by
  rw [write]
  simp [itemsText]

theorem itemsText_last (style : Style) (k : Nat) (item : Json) :
    itemsText style k [item] rest = style.lineBreak k ++ (write style k item
      ++ (style.lineBreak (k - 1) ++ ']' :: rest)) := by
  simp [itemsText, writeItems]

theorem itemsText_comma (style : Style) (k : Nat) (item next : Json) (more : List Json) :
    itemsText style k (item :: next :: more) rest = style.lineBreak k ++ (write style k item
      ++ ',' :: itemsText style k (next :: more) rest) := by
  simp [itemsText, writeItems]

/-- The text of fields up to the end of their object. -/
def fieldsText (style : Style) (k : Nat) (fields : List (String × Json)) (rest : List Char) :
    List Char :=
  writeFields style k fields ++ (style.lineBreak (k - 1) ++ '\x7d' :: rest)

theorem write_object (style : Style) (k : Nat) (field : String × Json)
    (more : List (String × Json)) :
    write style k (object (field :: more)) ++ rest
      = '\x7b' :: fieldsText style (k + 1) (field :: more) rest := by
  rw [write]
  simp [fieldsText]

theorem fieldsText_last (style : Style) (k : Nat) (name : String) (value : Json) :
    fieldsText style k [(name, value)] rest = fieldText name (style.lineBreak k) style.afterColon
      (write style k value ++ (style.lineBreak (k - 1) ++ '\x7d' :: rest)) := by
  simp [fieldsText, fieldText, writeFields]

theorem fieldsText_comma (style : Style) (k : Nat) (name : String) (value : Json)
    (next : String × Json) (more : List (String × Json)) :
    fieldsText style k ((name, value) :: next :: more) rest
      = fieldText name (style.lineBreak k) style.afterColon
        (write style k value ++ ',' :: fieldsText style k (next :: more) rest) := by
  simp [fieldsText, fieldText, writeFields]

theorem head?_itemsText (hstyle : style.IsBlank) (k : Nat) {item : Json} (more : List Json)
    (h : item.IsValid) : (skipBlanks (itemsText style k (item :: more) rest)).head? ≠ some ']' := by
  obtain ⟨c, s, hwrite, hblank, hne⟩ := write_head style k h
  cases more with
  | nil =>
      rw [itemsText_last, skipBlanks_append (hstyle.lineBreak k), hwrite, List.cons_append,
        skipBlanks_cons hblank]
      simpa using hne
  | cons next more =>
      rw [itemsText_comma, skipBlanks_append (hstyle.lineBreak k), hwrite, List.cons_append,
        skipBlanks_cons hblank]
      simpa using hne

theorem head?_fieldsText (hstyle : style.IsBlank) (k : Nat) (field : String × Json)
    (more : List (String × Json)) :
    (skipBlanks (fieldsText style k (field :: more) rest)).head? ≠ some '\x7d' := by
  obtain ⟨name, value⟩ := field
  have hquote (s : List Char) :
      (skipBlanks (fieldText name (style.lineBreak k) style.afterColon s)).head? ≠ some '\x7d' := by
    unfold fieldText quote
    rw [skipBlanks_append (hstyle.lineBreak k), List.cons_append, skipBlanks_cons (by decide)]
    exact (by decide : some '"' ≠ some '\x7d')
  cases more with
  | nil => exact fieldsText_last style k name value ▸ hquote _
  | cons next more => exact fieldsText_comma style k name value next more ▸ hquote _

theorem skipBlanks_end (hstyle : style.IsBlank) (k : Nat) {c : Char} (hc : isBlank c = false)
    (s : List Char) : skipBlanks (style.lineBreak k ++ c :: s) = c :: s := by
  rw [skipBlanks_append (hstyle.lineBreak k), skipBlanks_cons hc]

/-- A printed document is not empty, so the reader has fuel for it. -/
theorem exists_fuel {d : Json} {fuel k : Nat} (hd : d.IsValid)
    (hfuel : 2 * (d.write style k).length ≤ fuel) : ∃ n, fuel = n + 1 := by
  obtain ⟨c, s, hwrite, -, -⟩ := write_head style k hd
  rw [hwrite, List.length_cons] at hfuel
  exact ⟨fuel - 1, by omega⟩

mutual

/-- A printed document is read as the document, if it is not nested too deep. -/
theorem readValue?_write (hstyle : style.IsBlank) : ∀ (d : Json), d.IsValid →
    ∀ (fuel depth k : Nat) (rest : List Char), 2 * (d.write style k).length ≤ fuel →
      EndsNumber rest →
      readValue? fuel depth (d.write style k ++ rest)
        = if d.nesting ≤ depth then some (d, rest) else none
  | null, h, fuel, depth, k, rest, hfuel, _ => by
      obtain ⟨fuel, rfl⟩ := exists_fuel h hfuel
      rfl
  | bool true, h, fuel, depth, k, rest, hfuel, _ => by
      obtain ⟨fuel, rfl⟩ := exists_fuel h hfuel
      rfl
  | bool false, h, fuel, depth, k, rest, hfuel, _ => by
      obtain ⟨fuel, rfl⟩ := exists_fuel h hfuel
      rfl
  | number n, h, fuel, depth, k, rest, hfuel, hrest => by
      cases h with
      | number h =>
          obtain ⟨fuel, rfl⟩ := exists_fuel (.number h) hfuel
          obtain ⟨c, s, hwrite, hc⟩ := head_writeNumber h
          rw [write]
          have hread := readNumber?_writeNumber h hrest
          rw [hwrite, List.cons_append] at hread ⊢
          rw [readValue?_number hc, hread]
          rfl
  | string s, h, fuel, depth, k, rest, hfuel, _ => by
      obtain ⟨fuel, rfl⟩ := exists_fuel h hfuel
      obtain ⟨text, hquote, hread⟩ := readString?_quote s rest
      rw [write, hquote, readValue?, skipBlanks_cons (by decide)]
      show (readString? (text.length + 1) [] text).map (fun (s, rest) => (string s, rest)) = _
      rw [hread]
      rfl
  | array [], h, fuel, depth, k, rest, hfuel, _ => by
      obtain ⟨fuel, rfl⟩ := exists_fuel h hfuel
      cases depth <;> rfl
  | array (item :: more), h, fuel, depth, k, rest, hfuel, _ => by
      cases h with
      | array h =>
          have hlength : 2 * (writeItems style (k + 1) (item :: more)).length + 2 < fuel := by
            rw [write] at hfuel
            simp only [List.length_append, List.length_cons, List.length_nil] at hfuel
            omega
          obtain ⟨fuel, rfl⟩ : ∃ n, fuel = n + 1 := ⟨fuel - 1, by omega⟩
          rw [write_array, nesting]
          cases depth with
          | zero => rfl
          | succ depth =>
              rw [readValue?_array fuel depth
                  (head?_itemsText hstyle _ more (h item List.mem_cons_self)),
                readItems?_itemsText hstyle (item :: more) (by simp) h fuel depth (k + 1) [] rest
                  (by omega)]
              by_cases hdepth : nestingItems (item :: more) ≤ depth <;> simp [hdepth]
  | object [], h, fuel, depth, k, rest, hfuel, _ => by
      obtain ⟨fuel, rfl⟩ := exists_fuel h hfuel
      cases depth <;> rfl
  | object (field :: more), h, fuel, depth, k, rest, hfuel, _ => by
      cases h with
      | object hordered h =>
          have hlength : 2 * (writeFields style (k + 1) (field :: more)).length + 2 < fuel := by
            rw [write] at hfuel
            simp only [List.length_append, List.length_cons, List.length_nil] at hfuel
            omega
          obtain ⟨fuel, rfl⟩ : ∃ n, fuel = n + 1 := ⟨fuel - 1, by omega⟩
          rw [write_object, nesting]
          cases depth with
          | zero => rfl
          | succ depth =>
              rw [readValue?_object fuel depth (head?_fieldsText hstyle _ field more),
                readFields?_fieldsText hstyle (field :: more) (by simp) h fuel depth (k + 1) [] rest
                  (by omega)]
              by_cases hdepth : nestingFields (field :: more) ≤ depth <;> simp [hdepth]

theorem readItems?_itemsText (hstyle : style.IsBlank) : ∀ (items : List Json), items ≠ [] →
    (∀ item ∈ items, item.IsValid) →
    ∀ (fuel depth k : Nat) (done : List Json) (rest : List Char),
      2 * (writeItems style k items).length < fuel →
      readItems? fuel depth done (itemsText style k items rest)
        = if nestingItems items ≤ depth then some (done.reverse ++ items, rest) else none
  | [item], _, h, fuel, depth, k, done, rest, hfuel => by
      obtain ⟨fuel, rfl⟩ : ∃ n, fuel = n + 1 := ⟨fuel - 1, by omega⟩
      rw [writeItems, List.length_append] at hfuel
      have hvalue := readValue?_write hstyle item (h item List.mem_cons_self) fuel depth k
        (style.lineBreak (k - 1) ++ ']' :: rest) (by omega)
        (endsNumber_append (hstyle.lineBreak _) (endsNumber_cons (by decide) _))
      rw [itemsText_last, readItems?_congr _ _ _ (skipBlanks_append (hstyle.lineBreak k)),
        nestingItems, nestingItems, Nat.max_zero]
      by_cases hdepth : item.nesting ≤ depth
      · rw [if_pos hdepth] at hvalue ⊢
        rw [readItems?_last hvalue (skipBlanks_end hstyle _ (by decide) _), List.reverse_cons]
      · rw [if_neg hdepth] at hvalue ⊢
        exact readItems?_stop hvalue
  | item :: next :: more, _, h, fuel, depth, k, done, rest, hfuel => by
      obtain ⟨fuel, rfl⟩ : ∃ n, fuel = n + 1 := ⟨fuel - 1, by omega⟩
      rw [writeItems, List.length_append, List.length_append, List.length_cons] at hfuel
      have hvalue := readValue?_write hstyle item (h item List.mem_cons_self) fuel depth k
        (',' :: itemsText style k (next :: more) rest) (by omega) (endsNumber_cons (by decide) _)
      rw [itemsText_comma, readItems?_congr _ _ _ (skipBlanks_append (hstyle.lineBreak k)),
        nestingItems]
      by_cases hdepth : item.nesting ≤ depth
      · rw [if_pos hdepth] at hvalue
        rw [readItems?_comma hvalue (skipBlanks_cons (by decide) _),
          readItems?_itemsText hstyle (next :: more) (by simp)
            (fun other hother => h other (List.mem_cons_of_mem _ hother)) fuel depth k _ rest
            (by omega)]
        simp [hdepth]
      · rw [if_neg hdepth] at hvalue
        rw [readItems?_stop hvalue, if_neg fun hmax => hdepth (le_trans (Nat.le_max_left ..) hmax)]

theorem readFields?_fieldsText (hstyle : style.IsBlank) : ∀ (fields : List (String × Json)),
    fields ≠ [] → (∀ field ∈ fields, field.2.IsValid) →
    ∀ (fuel depth k : Nat) (done : List (String × Json)) (rest : List Char),
      2 * (writeFields style k fields).length < fuel →
      readFields? fuel depth done (fieldsText style k fields rest)
        = if nestingFields fields ≤ depth then some (done.reverse ++ fields, rest) else none
  | [(name, value)], _, h, fuel, depth, k, done, rest, hfuel => by
      obtain ⟨fuel, rfl⟩ : ∃ n, fuel = n + 1 := ⟨fuel - 1, by omega⟩
      simp only [writeFields, List.length_append, List.length_cons] at hfuel
      have hvalue := readValue?_write hstyle value (h (name, value) List.mem_cons_self) fuel depth k
        (style.lineBreak (k - 1) ++ '\x7d' :: rest) (by omega)
        (endsNumber_append (hstyle.lineBreak _) (endsNumber_cons (by decide) _))
      rw [fieldsText_last, nestingFields, nestingFields, Nat.max_zero]
      by_cases hdepth : value.nesting ≤ depth
      · rw [if_pos hdepth] at hvalue ⊢
        rw [readFields?_last (hstyle.lineBreak k) hstyle.afterColon hvalue
          (skipBlanks_end hstyle _ (by decide) _), List.reverse_cons]
      · rw [if_neg hdepth] at hvalue ⊢
        exact readFields?_stop (hstyle.lineBreak k) hstyle.afterColon hvalue
  | (name, value) :: next :: more, _, h, fuel, depth, k, done, rest, hfuel => by
      obtain ⟨fuel, rfl⟩ : ∃ n, fuel = n + 1 := ⟨fuel - 1, by omega⟩
      simp only [writeFields, List.length_append, List.length_cons] at hfuel
      have hvalue := readValue?_write hstyle value (h (name, value) List.mem_cons_self) fuel depth k
        (',' :: fieldsText style k (next :: more) rest) (by omega) (endsNumber_cons (by decide) _)
      rw [fieldsText_comma, nestingFields]
      by_cases hdepth : value.nesting ≤ depth
      · rw [if_pos hdepth] at hvalue
        rw [readFields?_comma (hstyle.lineBreak k) hstyle.afterColon hvalue
            (skipBlanks_cons (by decide) _),
          readFields?_fieldsText hstyle (next :: more) (by simp)
            (fun other hother => h other (List.mem_cons_of_mem _ hother)) fuel depth k _ rest
            (by omega)]
        simp [hdepth]
      · rw [if_neg hdepth] at hvalue
        rw [readFields?_stop (hstyle.lineBreak k) hstyle.afterColon hvalue,
          if_neg fun hmax => hdepth (le_trans (Nat.le_max_left ..) hmax)]

end

end Specimen.Json
