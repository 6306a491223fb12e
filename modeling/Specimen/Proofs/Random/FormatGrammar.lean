import Specimen.Proofs.Calendar
import Specimen.Proofs.Pieces
import Specimen.Proofs.Random.Ending
import Specimen.Proofs.Random.Text
import Specimen.Random.FormatValue
import Specimen.Random.Scripted

/-!
# What the formats look like

Each format has a grammar that says nothing of how a text was made (`Format.IsWritten`): the
pieces of a text between separators, and what each piece is made of. Dates and times are those
of a real instant, and the seconds up to that instant are the number that was drawn.

A value of a format is drawn unless its source stalls, and it is written as its grammar says
(`formatValue_isWritten`). Only formats with a choice of their own can stall: addresses and
identifiers are made of plain words, any of which will do (`Prompt`).
-/

namespace Specimen

/-! ## Grammars -/

namespace Format

/-- A word of ASCII letters. -/
structure IsLabel (text : List Char) : Prop where
  ne_nil : text ≠ []
  isAlpha : ∀ c ∈ text, c.isAlpha = true

/-- Two words with a dot between. -/
def IsHostName (text : List Char) : Prop :=
  ∃ first second, pieces '.' text = [first, second] ∧ IsLabel first ∧ IsLabel second

/-- The characters that atoms of mail addresses are made of. -/
def isAtomChar (c : Char) : Bool :=
  c.isAlphanum || "!#$%&\x27*+-/=?^_\x60\x7b|\x7d~".toList.contains c

def IsMailAddress (text : List Char) : Prop :=
  ∃ name domain, text = name ++ '@' :: domain ∧ name ≠ [] ∧ (∀ c ∈ name, isAtomChar c = true)
    ∧ IsHostName domain

/-- A host and a lorem word below it. -/
def IsLink (text : List Char) : Prop :=
  ∃ host page, text = "https://".toList ++ (host ++ '/' :: page) ∧ IsHostName host ∧ IsLabel page
    ∧ String.ofList page ∈ loremWords

/-- Four numbers of a byte each. -/
def IsDottedAddress (text : List Char) : Prop :=
  (pieces '.' text).length = 4
    ∧ ∀ octet ∈ pieces '.' text, Digits.IsNumeral octet ∧ Digits.decimal octet ≤ 255

/-- Eight groups of up to four hexadecimal digits. -/
def IsGroupedAddress (text : List Char) : Prop :=
  (pieces ':' text).length = 8
    ∧ ∀ group ∈ pieces ':' text,
      1 ≤ group.length ∧ group.length ≤ 4 ∧ ∀ c ∈ group, Digits.isHex c = true

/-- Five groups of hexadecimal digits, of which the third starts with the version, which is four,
and the fourth with a variant. -/
structure IsIdentifier (text : List Char) : Prop where
  lengths : (pieces '-' text).map List.length = [8, 4, 4, 4, 12]
  isHex : ∀ group ∈ pieces '-' text, ∀ c ∈ group, Digits.isHex c = true
  version : ∃ group, (pieces '-' text)[2]? = some group ∧ group.head? = some '4'
  variant : ∃ group c, (pieces '-' text)[3]? = some group ∧ group.head? = some c
    ∧ c ∈ ['8', '9', 'a', 'b']

variable {σ : Type} [Source σ]

/-- A real instant, the seconds up to which are a number of 31 bits that is drawn. -/
structure IsDrawnInstant (ε : Type) (limit : Nat) (src rest : σ) (t : Instant) : Prop where
  isReal : t.IsReal
  le_year : 1970 ≤ t.year
  run : (Draw.countBetween 0 (2 ^ 31 - 1) : Draw σ ε Nat).run limit src = (.ok t.toSeconds, rest)
  le : t.toSeconds ≤ 2 ^ 31 - 1

/-- How a value of a format is written that is drawn between two states of a source. -/
def IsWritten (ε : Type) (limit : Nat) (src rest : σ) : Format → List Char → Prop
  | dateTime, text => ∃ t date time, IsDrawnInstant ε limit src rest t ∧ t.WritesDate date
      ∧ t.WritesTime time ∧ text = date ++ 'T' :: time
  | date, text => ∃ t, IsDrawnInstant ε limit src rest t ∧ t.WritesDate text
  | time, text => ∃ t, IsDrawnInstant ε limit src rest t ∧ t.WritesTime text
  | email, text => IsMailAddress text
  | hostname, text => IsHostName text
  | ipv4, text => IsDottedAddress text
  | ipv6, text => IsGroupedAddress text
  | uri, text => IsLink text
  | uuid, text => IsIdentifier text

/-- The most that a choice for a format is made among, if there is a choice that refuses words. -/
def choices? : Format → Option Nat
  | dateTime | date | time => some (2 ^ 31)
  | email => some firstNames.length
  | hostname | uri => some loremWords.length
  | ipv4 | ipv6 | uuid => none

/-- Thirty-one bits of seconds end long before the year 10000. -/
theorem IsDrawnInstant.writesDate {ε : Type} {limit : Nat} {src rest : σ} {t : Instant}
    (h : IsDrawnInstant ε limit src rest t) : t.WritesDate t.dateText.toList :=
  h.isReal.writesDate (Instant.year_lt_of_toSeconds_lt (Nat.lt_of_le_of_lt h.le (by decide)))

end Format

open Format

/-! ## Words of the lists

The characters of a long list of names are looked at as bytes, which takes far less of the
kernel than decoding them. -/

def isLetterByte (b : UInt8) : Bool :=
  Nat.ble 65 b.toNat && Nat.ble b.toNat 90 || Nat.ble 97 b.toNat && Nat.ble b.toNat 122

theorem isLetterByte_iff {b : UInt8} :
    isLetterByte b = true ↔ 65 ≤ b.toNat ∧ b.toNat ≤ 90 ∨ 97 ≤ b.toNat ∧ b.toNat ≤ 122 := by
  simp [isLetterByte]

theorem isAlpha_iff {c : Char} :
    c.isAlpha = true ↔ 65 ≤ c.toNat ∧ c.toNat ≤ 90 ∨ 97 ≤ c.toNat ∧ c.toNat ≤ 122 := by
  have hupper : c.isUpper = true ↔ 65 ≤ c.toNat ∧ c.toNat ≤ 90 := decide_eq_true_iff
  have hlower : c.isLower = true ↔ 97 ≤ c.toNat ∧ c.toNat ≤ 122 :=
    Bool.and_eq_true_iff.trans (and_congr decide_eq_true_iff decide_eq_true_iff)
  show (c.isUpper || c.isLower) = true ↔ _
  rw [Bool.or_eq_true, hupper, hlower]

/-- The first byte of a character says whether it is a letter. -/
theorem isAlpha_of_utf8EncodeChar {c : Char}
    (h : ∀ b ∈ String.utf8EncodeChar c, isLetterByte b = true) : c.isAlpha = true := by
  simp only [isLetterByte_iff] at h
  rw [isAlpha_iff]
  show 65 ≤ c.val.toNat ∧ c.val.toNat ≤ 90 ∨ 97 ≤ c.val.toNat ∧ c.val.toNat ≤ 122
  unfold String.utf8EncodeChar at h
  dsimp only at h
  -- a character of one byte is that byte, and the first of several bytes is none of a letter
  repeat' split at h
  all_goals
    have hfirst := h _ List.mem_cons_self
    rw [UInt8.toNat_ofNat'] at hfirst
    omega

/-- A text is not empty, and all of its bytes are letters. -/
def hasLetterBytes (s : String) : Bool :=
  !s.toByteArray.data.toList.isEmpty && s.toByteArray.data.toList.all isLetterByte

theorem isLabel_of_hasLetterBytes {s : String} (h : hasLetterBytes s = true) :
    IsLabel s.toList := by
  have hbytes : s.toByteArray.data.toList = s.toList.flatMap String.utf8EncodeChar := by
    rw [← String.utf8Encode_toList]
    exact List.toList_data_toByteArray
  unfold hasLetterBytes at h
  rw [hbytes, Bool.and_eq_true] at h
  obtain ⟨hsome, hall⟩ := h
  constructor
  · intro hnil
    rw [hnil] at hsome
    cases hsome
  · intro c hc
    refine isAlpha_of_utf8EncodeChar fun b hb => ?_
    exact List.all_eq_true.mp hall b (List.mem_flatMap.mpr ⟨c, hc, hb⟩)

theorem isLabel_of_mem {words : List String} (h : words.all hasLetterBytes = true) :
    ∀ word ∈ words, IsLabel word.toList := by
  intro word hword
  exact isLabel_of_hasLetterBytes (List.all_eq_true.mp h word hword)

theorem isLabel_of_mem_firstNames : ∀ name ∈ firstNames, IsLabel name.toList :=
  isLabel_of_mem (by decide +kernel)

theorem isLabel_of_mem_loremWords : ∀ word ∈ loremWords, IsLabel word.toList :=
  isLabel_of_mem (by decide +kernel)

theorem isLabel_of_mem_mailDomains : ∀ domain ∈ Draw.mailDomains, IsLabel domain.toList :=
  isLabel_of_mem (by decide +kernel)

theorem isLabel_of_mem_hostDomains : ∀ domain ∈ Draw.hostDomains, IsLabel domain.toList :=
  isLabel_of_mem (by decide +kernel)

theorem isAlpha_toLower {c : Char} (h : c.isAlpha = true) : c.toLower.isAlpha = true := by
  have hbounds := isAlpha_iff.mp h
  unfold Char.toLower
  split
  · next hupper =>
      have hlow : 65 ≤ c.val.toNat ∧ c.val.toNat ≤ 90 := hupper
      refine isAlpha_iff.mpr (.inr ?_)
      show 97 ≤ (c.val + 32).toNat ∧ (c.val + 32).toNat ≤ 122
      rw [UInt32.toNat_add, show (32 : UInt32).toNat = 32 from rfl]
      omega
  · exact h

namespace Format

theorem IsLabel.lowerCase {s : String} (h : IsLabel s.toList) :
    IsLabel (Draw.lowerCase s).toList := by
  have htext : (Draw.lowerCase s).toList = s.toList.map Char.toLower := String.toList_ofList
  rw [htext]
  refine ⟨fun hnil => h.ne_nil (List.map_eq_nil_iff.mp hnil), ?_⟩
  rw [List.forall_mem_map]
  exact fun c hc => isAlpha_toLower (h.isAlpha c hc)

/-- A character that is no letter is in no word. -/
theorem IsLabel.not_mem {text : List Char} (h : IsLabel text) {c : Char}
    (hc : c.isAlpha = false) : c ∉ text := by
  intro hmem
  rw [h.isAlpha c hmem] at hc
  cases hc

theorem IsLabel.isHostName {first second : List Char} (hfirst : IsLabel first)
    (hsecond : IsLabel second) : IsHostName (first ++ '.' :: second) := by
  refine ⟨first, second, ?_, hfirst, hsecond⟩
  rw [pieces_append, pieces_of_not_mem (hfirst.not_mem rfl),
    pieces_of_not_mem (hsecond.not_mem rfl)]
  rfl

end Format

namespace Draw

variable {σ ε α β : Type} {E : ε → Prop}

/-! ## Draws that always end -/

/-- A draw ends with a value that has a property, whatever words it takes. -/
def Prompt (x : Draw σ ε α) (Q : α → Prop) : Prop :=
  ∀ limit src, ∃ a rest, x.run limit src = (.ok a, rest) ∧ Q a

theorem prompt_pure {a : α} {Q : α → Prop} (h : Q a) : Prompt (pure a : Draw σ ε α) Q :=
  fun _ src => ⟨a, src, rfl, h⟩

theorem Prompt.bind {x : Draw σ ε α} {f : α → Draw σ ε β} {Q : α → Prop} {R : β → Prop}
    (hx : Prompt x Q) (hf : ∀ a, Q a → Prompt (f a) R) : Prompt (x >>= f) R := by
  intro limit src
  obtain ⟨a, middle, hfirst, ha⟩ := hx limit src
  obtain ⟨b, rest, hsecond, hb⟩ := hf a ha limit middle
  exact ⟨b, rest, (run_bind_of_ok hfirst).trans hsecond, hb⟩

theorem Prompt.times {x : Draw σ ε α} {Q : α → Prop} (h : Prompt x Q) :
    ∀ count, Prompt (times count x) fun as => as.length = count ∧ ∀ a ∈ as, Q a
  | 0 => prompt_pure ⟨rfl, List.forall_mem_nil Q⟩
  | count + 1 => by
      refine h.bind fun a ha => (h.times count).bind fun as ⟨hlength, has⟩ => ?_
      exact prompt_pure ⟨by rw [List.length_cons, hlength], List.forall_mem_cons.mpr ⟨ha, has⟩⟩

variable [Source σ]

/-! ## Hosts, mail addresses and links -/

theorem oneOf_ensures {items : List String} (h : items ≠ []) :
    Ensures (oneOf items : Draw σ ε String) (· ∈ items) E := by
  refine (element_ensures items).bind fun item? hitem => ensures_pure ?_
  rcases hitem with ⟨hnil, -⟩ | ⟨item, hmem, rfl⟩
  · exact absurd hnil h
  · exact hmem

theorem oneOf_ends {items : List String} {most : Nat} (h : items.length ≤ most) :
    Ends most (oneOf items : Draw σ ε String) :=
  (element_ends h).bind_all fun _ => ends_pure _

theorem word_ends : Ends loremWords.length (word : Draw σ ε String) :=
  (element_ends le_rfl).bind_all fun _ => ends_pure _

theorem mailAddress_ensures :
    Ensures (mailAddress : Draw σ ε String) (fun s => IsMailAddress s.toList) E := by
  refine (oneOf_ensures (by decide +kernel)).bind fun name hname => ?_
  refine (oneOf_ensures (by decide)).bind fun domain hdomain => ensures_pure ?_
  have hlabel : IsLabel (lowerCase name).toList := (isLabel_of_mem_firstNames name hname).lowerCase
  refine ⟨(lowerCase name).toList, "example".toList ++ '.' :: domain.toList, ?_, hlabel.ne_nil,
    fun c hc => ?_, ?_⟩
  · simp
  · simp [isAtomChar, Char.isAlphanum, hlabel.isAlpha c hc]
  · have hexample : IsLabel "example".toList := isLabel_of_hasLetterBytes (by decide +kernel)
    exact hexample.isHostName (isLabel_of_mem_mailDomains domain hdomain)

theorem mailAddress_ends : Ends firstNames.length (mailAddress : Draw σ ε String) := by
  have hlast : FirstNames.withZ <:+ firstNames := List.suffix_append ..
  refine (oneOf_ends le_rfl).bind_all fun _ => ?_
  exact (oneOf_ends (Nat.le_trans (by decide) hlast.length_le)).bind_all fun _ => ends_pure _

theorem hostName_ensures :
    Ensures (hostName : Draw σ ε String) (fun s => IsHostName s.toList) E := by
  refine (oneOf_ensures (by decide)).bind fun domain hdomain => ?_
  refine word_ensures.bind fun label hlabel => ensures_pure ?_
  have htext : (lowerCase label ++ "." ++ domain).toList
      = (lowerCase label).toList ++ '.' :: domain.toList := by simp
  rw [htext]
  exact (isLabel_of_mem_loremWords label hlabel).lowerCase.isHostName
    (isLabel_of_mem_hostDomains domain hdomain)

theorem hostName_ends : Ends loremWords.length (hostName : Draw σ ε String) := by
  refine (oneOf_ends (by decide +kernel)).bind_all fun _ => ?_
  exact word_ends.bind_all fun _ => ends_pure _

theorem link_ensures : Ensures (link : Draw σ ε String) (fun s => IsLink s.toList) E := by
  refine hostName_ensures.bind fun host hhost => ?_
  refine word_ensures.bind fun page hpage => ensures_pure ?_
  refine ⟨host.toList, page.toList, ?_, hhost, isLabel_of_mem_loremWords page hpage, ?_⟩
  · simp
  · rwa [String.ofList_toList]

theorem link_ends : Ends loremWords.length (link : Draw σ ε String) :=
  hostName_ends.bind_all fun _ => word_ends.bind_all fun _ => ends_pure _

/-! ## Addresses -/

theorem lowBits_prompt (count : Nat) : Prompt (lowBits count : Draw σ ε Nat) (· < 2 ^ count) := by
  intro limit src
  refine ⟨_, _, run_bind_of_ok (isWord_word32 limit src), ?_⟩
  rw [Nat.one_shiftLeft]
  exact Nat.mod_lt _ (Nat.two_pow_pos count)

theorem pieces_joined {separator : Char} {parts : List Nat} {text : Nat → String}
    (h : ∀ n, separator ∉ (text n).toList) (hparts : parts ≠ []) :
    pieces separator (String.intercalate (.singleton separator) (parts.map text)).toList
      = parts.map fun n => (text n).toList := by
  rw [String.toList_intercalate, String.toList_singleton, List.map_map, pieces_intercalate]
  · rfl
  · rw [List.forall_mem_map]
    exact fun n _ => h n
  · exact fun hnil => hparts (List.map_eq_nil_iff.mp hnil)

theorem dottedAddress_prompt :
    Prompt (dottedAddress : Draw σ ε String) fun s => IsDottedAddress s.toList := by
  refine ((lowBits_prompt 8).times 4).bind fun parts ⟨hlength, hparts⟩ => prompt_pure ?_
  have hne : parts ≠ [] := List.ne_nil_of_length_eq_add_one hlength
  have hdot : ∀ n : Nat, '.' ∉ (toString n).toList := fun n hmem => by
    have hdigit := Decimal.isDigit_of_mem_digits hmem
    cases hdigit
  unfold IsDottedAddress
  rw [show ("." : String) = .singleton '.' from rfl, pieces_joined hdot hne, List.length_map,
    List.forall_mem_map]
  refine ⟨hlength, fun n hn => ⟨Decimal.isNumeral_digits n, ?_⟩⟩
  rw [show Digits.decimal (toString n).toList = n from Decimal.decimal_digits n]
  exact Nat.le_of_lt_succ (hparts n hn)

theorem isHex_upperHexDigit : ∀ n < 16, Digits.isHex (upperHexDigit n) = true := by decide

theorem isHex_upperHex (n : Nat) : ∀ c ∈ upperHex n, Digits.isHex c = true := by
  fun_induction upperHex n with
  | case1 n hlt => simpa using isHex_upperHexDigit n hlt
  | case2 n hge ih =>
      have hlast := isHex_upperHexDigit (n % 16) (Nat.mod_lt n (by decide))
      simpa [or_imp, forall_and] using ⟨ih, hlast⟩

theorem length_upperHex_pos (n : Nat) : 1 ≤ (upperHex n).length := by
  unfold upperHex
  split <;> simp

/-- Every further digit stands for another factor of sixteen. -/
theorem length_upperHex_le {n : Nat} :
    ∀ {width : Nat}, 0 < width → n < 16 ^ width → (upperHex n).length ≤ width := by
  fun_induction upperHex n with
  | case1 n hlt => exact fun hwidth _ => hwidth
  | case2 n hge ih =>
      intro width hwidth hn
      obtain ⟨less, rfl⟩ := Nat.exists_eq_add_one_of_ne_zero hwidth.ne'
      have hless : 0 < less := by
        refine Nat.pos_of_ne_zero fun hzero => hge ?_
        rwa [hzero] at hn
      have hrest : n / 16 < 16 ^ less := Nat.div_lt_of_lt_mul (by rwa [Nat.pow_succ'] at hn)
      rw [List.length_append, List.length_singleton]
      exact Nat.succ_le_succ (ih hless hrest)

theorem groupedAddress_prompt :
    Prompt (groupedAddress : Draw σ ε String) fun s => IsGroupedAddress s.toList := by
  refine ((lowBits_prompt 16).times 8).bind fun parts ⟨hlength, hparts⟩ => prompt_pure ?_
  have hne : parts ≠ [] := List.ne_nil_of_length_eq_add_one hlength
  have hcolon : ∀ n : Nat, ':' ∉ (String.ofList (upperHex n)).toList := fun n hmem => by
    rw [String.toList_ofList] at hmem
    have hhex := isHex_upperHex n ':' hmem
    cases hhex
  unfold IsGroupedAddress
  rw [show (":" : String) = .singleton ':' from rfl, pieces_joined hcolon hne, List.length_map,
    List.forall_mem_map]
  refine ⟨hlength, fun n hn => ?_⟩
  rw [String.toList_ofList]
  exact ⟨length_upperHex_pos n, length_upperHex_le (by decide) (hparts n hn), isHex_upperHex n⟩

/-! ## Identifiers -/

theorem isHex_hexDigit : ∀ n < 16, Digits.isHex (Json.hexDigit n) = true := by decide

/-- The digits of some of the bytes. -/
def byteGroup (bytes : List Nat) (start count : Nat) : List Char :=
  ((bytes.drop start).take count).flatMap byteDigits

section ByteGroup

variable {bytes : List Nat} {start count : Nat}

theorem isHex_byteGroup (h : ∀ b ∈ bytes, b < 256) :
    ∀ c ∈ byteGroup bytes start count, Digits.isHex c = true := by
  intro c hc
  obtain ⟨b, hb, hc⟩ := List.mem_flatMap.mp hc
  have hbyte : b < 256 := h b (List.mem_of_mem_drop (List.mem_of_mem_take hb))
  have hhigh := isHex_hexDigit (b / 16) (by omega)
  have hlow := isHex_hexDigit (b % 16) (by omega)
  rcases List.mem_pair.mp hc with rfl | rfl
  · exact hhigh
  · exact hlow

theorem length_flatMap_byteDigits (bytes : List Nat) :
    (bytes.flatMap byteDigits).length = 2 * bytes.length := by
  induction bytes with
  | nil => rfl
  | cons b bytes ih =>
      rw [List.flatMap_cons, List.length_append, ih, List.length_cons]
      show 2 + 2 * bytes.length = 2 * (bytes.length + 1)
      omega

theorem length_byteGroup (h : start + count ≤ bytes.length) :
    (byteGroup bytes start count).length = 2 * count := by
  rw [byteGroup, length_flatMap_byteDigits, List.length_take, List.length_drop]
  omega

theorem head?_byteGroup {b : Nat} (h : bytes[start]? = some b) (hcount : 0 < count) :
    (byteGroup bytes start count).head? = some (Json.hexDigit (b / 16)) := by
  obtain ⟨hstart, rfl⟩ := List.getElem?_eq_some_iff.mp h
  obtain ⟨more, rfl⟩ := Nat.exists_eq_add_one_of_ne_zero hcount.ne'
  rw [byteGroup, List.drop_eq_getElem_cons hstart]
  rfl

end ByteGroup

/-- Bytes with the version and the variant in two of them. -/
def stamped (bytes : List Nat) : List Nat :=
  (bytes.modify 6 fun b => 0x40 + b % 16).modify 8 fun b => 0x80 + b % 64

theorem length_stamped (bytes : List Nat) : (stamped bytes).length = bytes.length := by
  rw [stamped, List.length_modify, List.length_modify]

theorem stamped_lt {bytes : List Nat} (h : ∀ b ∈ bytes, b < 256) :
    ∀ b ∈ stamped bytes, b < 256 := by
  have hmodify : ∀ (bs : List Nat) (i : Nat) (f : Nat → Nat), (∀ b ∈ bs, b < 256) →
      (∀ b, f b < 256) → ∀ b ∈ bs.modify i f, b < 256 := by
    intro bs i f hbs hf b hb
    obtain ⟨j, hj⟩ := List.mem_iff_getElem?.mp hb
    rw [List.getElem?_modify] at hj
    obtain ⟨b', hb', rfl⟩ := Option.map_eq_some_iff.mp hj
    split
    · exact hf b'
    · exact hbs b' (List.mem_of_getElem? hb')
  refine hmodify _ 8 _ (hmodify _ 6 _ h fun b => ?_) fun b => ?_ <;> omega

/-- The version is in the high bits of the seventh byte. -/
theorem stamped_version {bytes : List Nat} (h : bytes.length = 16) :
    ∃ b, (stamped bytes)[6]? = some (0x40 + b % 16) := by
  refine ⟨bytes[6], ?_⟩
  rw [stamped, List.getElem?_modify_ne _ _ (by decide), List.getElem?_modify_eq,
    List.getElem?_eq_getElem (by omega)]
  rfl

/-- The variant is in the high bits of the ninth byte. -/
theorem stamped_variant {bytes : List Nat} (h : bytes.length = 16) :
    ∃ b, (stamped bytes)[8]? = some (0x80 + b % 64) := by
  refine ⟨bytes[8], ?_⟩
  rw [stamped, List.getElem?_modify_eq, List.getElem?_modify_ne _ _ (by decide),
    List.getElem?_eq_getElem (by omega)]
  rfl

theorem pieces_identifierText {bytes : List Nat} (h : ∀ b ∈ stamped bytes, b < 256) :
    pieces '-' (identifierText bytes)
      = [byteGroup (stamped bytes) 0 4, byteGroup (stamped bytes) 4 2,
        byteGroup (stamped bytes) 6 2, byteGroup (stamped bytes) 8 2,
        byteGroup (stamped bytes) 10 6] := by
  have hgroup : ∀ start count, '-' ∉ byteGroup (stamped bytes) start count :=
    fun start count hmem => by cases isHex_byteGroup h '-' hmem
  have htext : identifierText bytes = byteGroup (stamped bytes) 0 4 ++ '-' ::
      (byteGroup (stamped bytes) 4 2 ++ '-' :: (byteGroup (stamped bytes) 6 2 ++ '-' ::
        (byteGroup (stamped bytes) 8 2 ++ '-' :: byteGroup (stamped bytes) 10 6))) := by
    simp [identifierText, byteGroup, stamped]
  rw [htext]
  simp only [pieces_append, pieces_of_not_mem (hgroup _ _), List.cons_append, List.nil_append]

theorem isIdentifier_identifierText {bytes : List Nat} (hlength : bytes.length = 16)
    (hbytes : ∀ b ∈ bytes, b < 256) : IsIdentifier (identifierText bytes) := by
  have hstamped := stamped_lt hbytes
  have hgroups := pieces_identifierText hstamped
  have hlen : (stamped bytes).length = 16 := (length_stamped bytes).trans hlength
  obtain ⟨versionByte, hversion⟩ := stamped_version hlength
  obtain ⟨variantByte, hvariant⟩ := stamped_variant hlength
  constructor <;> rw [hgroups]
  case lengths =>
    have hgroup : ∀ start count, start + count ≤ 16 →
        (byteGroup (stamped bytes) start count).length = 2 * count :=
      fun start count h => length_byteGroup (by rwa [hlen])
    simp [hgroup]
  case isHex =>
    intro group hgroup
    simp only [List.mem_cons, List.not_mem_nil, or_false] at hgroup
    rcases hgroup with rfl | rfl | rfl | rfl | rfl <;> exact isHex_byteGroup hstamped
  case version =>
    refine ⟨_, rfl, ?_⟩
    rw [head?_byteGroup hversion (by decide), show (0x40 + versionByte % 16) / 16 = 4 by omega]
    rfl
  case variant =>
    refine ⟨_, _, rfl, head?_byteGroup hvariant (by decide), ?_⟩
    have hbits : variantByte % 64 / 16 < 4 := by omega
    rw [show (0x80 + variantByte % 64) / 16 = 8 + variantByte % 64 / 16 by omega]
    have hdigit : ∀ high < 4, Json.hexDigit (8 + high) ∈ ['8', '9', 'a', 'b'] := by decide
    exact hdigit _ hbits

theorem identifier_prompt :
    Prompt (identifier : Draw σ ε String) fun s => IsIdentifier s.toList := by
  refine ((lowBits_prompt 8).times 16).bind fun bytes ⟨hlength, hbytes⟩ => prompt_pure ?_
  rw [String.toList_ofList]
  exact isIdentifier_identifierText hlength hbytes

/-! ## Instants -/

section Instants

variable {limit : Nat} {src rest : σ} {t : Instant}

theorem run_instant (limit : Nat) (src : σ) :
    (∃ t rest, (instant : Draw σ ε Instant).run limit src = (.ok t, rest)
        ∧ IsDrawnInstant ε limit src rest t)
      ∨ Stalls (2 ^ 31) limit src
        ∧ ∃ rest, (instant : Draw σ ε Instant).run limit src = (.error .endless, rest) := by
  rcases (countBetween_ensures 0 (2 ^ 31 - 1)).run_cases (countBetween_ends le_rfl) limit src with
    ⟨seconds, rest, hrun, -, hle⟩ | ⟨hstalls, rest, hrun⟩
  · refine .inl ⟨Calendar.ofSeconds seconds, rest, run_bind_of_ok hrun, ?_⟩
    refine ⟨Calendar.isReal_ofSeconds seconds, Calendar.le_year_ofSeconds seconds, ?_, ?_⟩
    · rw [Calendar.toSeconds_ofSeconds]
      exact hrun
    · rw [Calendar.toSeconds_ofSeconds]
      exact hle
  · exact .inr ⟨hstalls, rest, run_bind_of_error hrun⟩

theorem isWritten_dateText (h : IsDrawnInstant ε limit src rest t) :
    IsWritten ε limit src rest .date t.dateText.toList :=
  ⟨t, h, h.writesDate⟩

theorem isWritten_timeText (h : IsDrawnInstant ε limit src rest t) :
    IsWritten ε limit src rest .time t.timeText.toList :=
  ⟨t, h, h.isReal.writesTime⟩

theorem isWritten_text (h : IsDrawnInstant ε limit src rest t) :
    IsWritten ε limit src rest .dateTime t.text.toList :=
  ⟨t, _, _, h, h.writesDate, h.isReal.writesTime, by simp [Instant.text]⟩

end Instants

/-! ## All formats -/

/-- A draw gives a value of a format, or it goes on for ever where its source stalls at a
choice for that format. -/
def Writes (format : Format) (x : Draw σ ε String) (limit : Nat) (src : σ) : Prop :=
  (∃ text rest, x.run limit src = (.ok text, rest)
      ∧ IsWritten ε limit src rest format text.toList)
    ∨ ∃ most ∈ format.choices?, Stalls most limit src
      ∧ ∃ rest, x.run limit src = (.error .endless, rest)

section Formats

variable {format : Format} {x : Draw σ ε String} {limit : Nat} {src : σ}

theorem writes_of_instant {text : Instant → String} (hmost : format.choices? = some (2 ^ 31))
    (h : ∀ rest t, IsDrawnInstant ε limit src rest t →
      IsWritten ε limit src rest format (text t).toList) :
    Writes format (instant >>= fun t => pure (text t) : Draw σ ε String) limit src := by
  rcases run_instant limit src with ⟨t, rest, hrun, ht⟩ | ⟨hstalls, rest, hrun⟩
  · exact .inl ⟨text t, rest, run_bind_of_ok hrun, h rest t ht⟩
  · exact .inr ⟨2 ^ 31, hmost, hstalls, rest, run_bind_of_error hrun⟩

theorem writes_of_ends {most : Nat} {P : List Char → Prop}
    (h : Ensures x (fun s => P s.toList) fun _ => False) (hends : Ends most x)
    (hmost : format.choices? = some most)
    (hP : ∀ rest text, P text → IsWritten ε limit src rest format text) :
    Writes format x limit src := by
  rcases h.run_cases hends limit src with ⟨text, rest, hrun, htext⟩ | hstalls
  · exact .inl ⟨text, rest, hrun, hP rest _ htext⟩
  · exact .inr ⟨most, hmost, hstalls⟩

theorem Prompt.writes {P : List Char → Prop} (h : Prompt x fun s => P s.toList)
    (hP : ∀ rest text, P text → IsWritten ε limit src rest format text) :
    Writes format x limit src := by
  obtain ⟨text, rest, hrun, htext⟩ := h limit src
  exact .inl ⟨text, rest, hrun, hP rest _ htext⟩

end Formats

/-- A value of a format is written as the grammar of the format says, and is drawn from every
source that does not stall at a choice for the format. -/
theorem formatValue_isWritten (format : Format) (limit : Nat) (src : σ) :
    (∃ text rest, (formatValue format : Draw σ ε String).run limit src = (.ok text, rest)
        ∧ IsWritten ε limit src rest format text.toList)
      ∨ ∃ most ∈ format.choices?, Stalls most limit src
        ∧ ∃ rest, (formatValue format : Draw σ ε String).run limit src
          = (.error .endless, rest) := by
  show Writes format (formatValue format) limit src
  cases format with
  | dateTime => exact writes_of_instant rfl fun _ _ => isWritten_text
  | date => exact writes_of_instant rfl fun _ _ => isWritten_dateText
  | time => exact writes_of_instant rfl fun _ _ => isWritten_timeText
  | email => exact writes_of_ends mailAddress_ensures mailAddress_ends rfl fun _ _ h => h
  | hostname => exact writes_of_ends hostName_ensures hostName_ends rfl fun _ _ h => h
  | ipv4 => exact dottedAddress_prompt.writes fun _ _ h => h
  | ipv6 => exact groupedAddress_prompt.writes fun _ _ h => h
  | uri => exact writes_of_ends link_ensures link_ends rfl fun _ _ h => h
  | uuid => exact identifier_prompt.writes fun _ _ h => h

/-- The first word leads to the start of a leap day. -/
theorem formatValue_isWritten_leapDay :
    ∃ rest, (formatValue .dateTime : Draw Scripted Empty String).run 1 ⟨[8175748561816780800], 0⟩
        = (.ok "2000-02-29T00:00:00Z", rest)
      ∧ IsWritten Empty 1 ⟨[8175748561816780800], 0⟩ rest .dateTime
        "2000-02-29T00:00:00Z".toList := by
  have hvalue : ((formatValue .dateTime : Draw Scripted Empty String).run 1
      ⟨[8175748561816780800], 0⟩).1.toOption = some "2000-02-29T00:00:00Z" := by decide +kernel
  rcases formatValue_isWritten (ε := Empty) .dateTime 1 (⟨[8175748561816780800], 0⟩ : Scripted) with
    ⟨text, rest, hrun, htext⟩ | ⟨-, -, -, rest, hendless⟩
  · rw [hrun] at hvalue
    obtain rfl : text = _ := Option.some.inj hvalue
    exact ⟨rest, hrun, htext⟩
  · rw [hendless] at hvalue
    cases hvalue

end Draw

end Specimen
