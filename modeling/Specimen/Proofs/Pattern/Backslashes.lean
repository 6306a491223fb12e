import Specimen.Pattern.Anchors

/-!
# Which characters are escaped

A pattern is scanned for backslashes twice. Where the anchors are taken off, the
backslashes at the end of the text are counted; where the shorthands are written out,
each backslash is paired with the character after it, from the start of the text on.
`scan` is the second one by itself: it takes a text apart into characters of their own,
escaped ones, and a backslash without a partner, which can only be the last character.

The count finds out the same (`isEscaped_iff`), so what is done to a pattern before it is
read can be said by `scan` alone (`scans_agree`). Shorthands are written out piece by piece
(`expandShorthands_eq`). Hence a text may be cut wherever nothing is escaped, and since no
piece of what comes out is a shorthand (`shorthand?_of_mem_scan`), writing them out again
changes nothing.
-/

namespace Specimen.Pattern

/-! ## The scan from the start -/

/-- What the scan takes off the text at a time: a character of its own, a backslash with
the character that it escapes, or a backslash that nothing follows. -/
inductive Scanned where
  | own (c : Char)
  | escape (c : Char)
  | dangling
deriving DecidableEq

namespace Scanned

def ofChar (c : Char) : Scanned := if c = '\\' then .dangling else .own c

def written : Scanned → List Char
  | own c => [c]
  | escape c => ['\\', c]
  | dangling => ['\\']

/-- What is written in place of it once shorthands are written out. -/
def expanded : Scanned → List Char
  | escape c => (shorthand? c).getD ['\\', c]
  | other => other.written

end Scanned

def scan : List Char → List Scanned
  | [] => []
  | '\\' :: c :: rest => .escape c :: scan rest
  | c :: rest => .ofChar c :: scan rest

/-- Texts are built from what the scan takes off them. -/
@[elab_as_elim]
theorem scan_induction {motive : List Char → Prop} (nil : motive []) (dangling : motive ['\\'])
    (escape : ∀ c rest, motive rest → motive ('\\' :: c :: rest))
    (own : ∀ c rest, c ≠ '\\' → motive rest → motive (c :: rest)) (text : List Char) :
    motive text := by
  fun_induction scan text with
  | case1 => exact nil
  | case2 c rest ih => exact escape c rest ih
  | case3 c rest hpair ih =>
      by_cases hc : c = '\\'
      · cases rest with
        | nil => exact hc ▸ dangling
        | cons d rest => exact (hpair d rest hc rfl).elim
      · exact own c rest hc ih

theorem scan_cons {c : Char} (hc : c ≠ '\\') (rest : List Char) :
    scan (c :: rest) = .own c :: scan rest := by
  simp [scan, Scanned.ofChar, hc]

theorem scan_singleton (c : Char) : scan [c] = [.ofChar c] := by
  simp [scan]

/-- The scan loses nothing of the text. -/
theorem flatMap_written_scan (text : List Char) : (scan text).flatMap Scanned.written = text := by
  induction text using scan_induction with
  | nil => rfl
  | dangling => rfl
  | escape c rest ih => simp [scan, Scanned.written, ih]
  | own c rest hc ih => simp [scan_cons hc, Scanned.written, ih]

theorem getLast?_cons_of_ne {x y : Scanned} (h : x ≠ y) (rest : List Scanned) :
    (x :: rest).getLast? = some y ↔ rest.getLast? = some y := by
  cases rest with
  | nil => simp [h]
  | cons z rest => simp [List.getLast?_cons]

/-! ## Both scans agree -/

theorem isEscaped_cons {c : Char} (hc : c ≠ '\\') (s : List Char) :
    isEscaped (c :: s) = isEscaped s := by
  unfold isEscaped
  rw [List.reverse_cons, List.takeWhile_append]
  split
  · next hall => simp [hc, hall]
  · rfl

theorem isEscaped_pair (c : Char) (s : List Char) : isEscaped ('\\' :: c :: s) = isEscaped s := by
  unfold isEscaped
  rw [List.reverse_cons, List.reverse_cons, List.append_assoc, List.takeWhile_append]
  split
  · next hall =>
      by_cases hc : c = '\\'
      · simp [hc, hall]
      · simp [hc, hall]
  · rfl

/-- An odd number of backslashes stands at the end just if the scan from the start ends on
one that escapes nothing. -/
theorem isEscaped_iff (text : List Char) :
    isEscaped text = true ↔ (scan text).getLast? = some .dangling := by
  induction text using scan_induction with
  | nil => simp [isEscaped, scan]
  | dangling => simp [isEscaped, scan, Scanned.ofChar]
  | escape c rest ih =>
      rw [isEscaped_pair, ih, scan, getLast?_cons_of_ne (by simp)]
  | own c rest hc ih =>
      rw [isEscaped_cons hc, ih, scan_cons hc, getLast?_cons_of_ne (by simp)]

/-- The last character is escaped for the scan from the start just if it is for the count
of the backslashes before it. -/
theorem getLast?_scan_concat (front : List Char) (c : Char) :
    (scan (front ++ [c])).getLast? = some (if isEscaped front then .escape c else .ofChar c) := by
  induction front using scan_induction with
  | nil => simp [isEscaped, scan_singleton]
  | dangling => simp [isEscaped, scan]
  | escape d rest ih => simp [scan, isEscaped_pair, List.getLast?_cons, ih]
  | own d rest hd ih => simp [scan_cons hd, isEscaped_cons hd, List.getLast?_cons, ih]

/-- A text can be scanned in two parts if it is cut where nothing is escaped. -/
theorem scan_append {front : List Char} (h : isEscaped front = false) (rest : List Char) :
    scan (front ++ rest) = scan front ++ scan rest := by
  induction front using scan_induction with
  | nil => rfl
  | dangling => simp [isEscaped] at h
  | escape c front ih => simp [scan, ih (isEscaped_pair c front ▸ h)]
  | own c front hc ih => simp [scan_cons hc, ih (isEscaped_cons hc front ▸ h)]

/-! ## Bytes

The first scan may as well count the bytes that a text is encoded in, for the byte of a
backslash is part of no other character. -/

/-- Whether an odd number of backslashes stands at the end of the bytes. -/
def isEscapedBytes (bytes : List UInt8) : Bool :=
  (bytes.reverse.takeWhile (· == 0x5C)).length % 2 == 1

theorem ne_backslash_of_mem_utf8EncodeChar {c : Char} (hc : c ≠ '\\') :
    ∀ b ∈ String.utf8EncodeChar c, b ≠ 0x5C := by
  have hcode : c.val.toNat ≠ 92 := fun h => hc (Char.ext (UInt32.toNat_inj.mp h))
  have hbyte (n : Nat) (h : n % 256 ≠ 92) : UInt8.ofNat n ≠ 0x5C := by
    intro heq
    exact h (by simpa using congrArg UInt8.toNat heq)
  unfold String.utf8EncodeChar
  dsimp only
  -- a code point below 128 is its own byte, and all bytes of a larger one are 128 or more
  repeat' split
  all_goals simp only [List.mem_cons, List.not_mem_nil, or_false, forall_eq_or_imp, forall_eq]
  · exact hbyte _ (by omega)
  · exact ⟨hbyte _ (by omega), hbyte _ (by omega)⟩
  · exact ⟨hbyte _ (by omega), hbyte _ (by omega), hbyte _ (by omega)⟩
  · exact ⟨hbyte _ (by omega), hbyte _ (by omega), hbyte _ (by omega), hbyte _ (by omega)⟩

theorem isEscapedBytes_utf8 (text : List Char) :
    isEscapedBytes (text.flatMap String.utf8EncodeChar) = isEscaped text := by
  have hencode : String.utf8EncodeChar '\\' = [0x5C] := rfl
  have hlength : ((text.flatMap String.utf8EncodeChar).reverse.takeWhile (· == 0x5C)).length
      = (text.reverse.takeWhile (· == '\\')).length := by
    rw [List.reverse_flatMap]
    induction text.reverse with
    | nil => rfl
    | cons c before ih =>
        rw [List.flatMap_cons, Function.comp_apply]
        by_cases hc : c = '\\'
        · simp [hc, hencode, ih]
        · obtain ⟨init, last, hlast⟩ :=
            (List.eq_nil_or_concat (String.utf8EncodeChar c)).resolve_left
              String.utf8EncodeChar_ne_nil
          have hne : last ≠ 0x5C :=
            ne_backslash_of_mem_utf8EncodeChar hc last (by simp [hlast])
          simp [hlast, hne, hc]
  unfold isEscapedBytes isEscaped
  rw [hlength]

/-! ## Anchors -/

theorem dropEndAnchor_eq (text : List Char) :
    dropEndAnchor text
      = if (scan text).getLast? = some (.own '$') then text.dropLast else text := by
  rcases List.eq_nil_or_concat text with rfl | ⟨front, c, rfl⟩
  · rfl
  · rw [List.concat_eq_append, getLast?_scan_concat, List.dropLast_concat]
    by_cases hc : c = '$'
    · subst hc
      cases hescaped : isEscaped front with
      | false => simp [dropEndAnchor, hescaped, Scanned.ofChar]
      | true => simp [dropEndAnchor, hescaped]
    · have hown : (if isEscaped front then Scanned.escape c else .ofChar c) ≠ .own '$' := by
        unfold Scanned.ofChar
        split
        · simp
        · split <;> simp [hc]
      rw [if_neg (by simpa using hown)]
      simp [dropEndAnchor, hc]

/-- A caret at the start is a character of its own, so taking it off changes nothing for
what is at the end. -/
theorem dropAnchors_eq (text : List Char) :
    dropAnchors text = if (scan text).getLast? = some (.own '$')
      then (dropStartAnchor text).dropLast else dropStartAnchor text := by
  unfold dropAnchors
  rw [dropEndAnchor_eq]
  unfold dropStartAnchor
  split
  · next rest =>
      have hlast := getLast?_cons_of_ne (show Scanned.own '^' ≠ .own '$' by simp) (scan rest)
      simp only [scan_cons (show '^' ≠ '\\' by decide), hlast]
  · rfl

example : dropAnchors ['^', 'a', '\\', '$'] = ['a', '\\', '$']
    ∧ dropAnchors ['^', 'a', '\\', '\\', '$'] = ['a', '\\', '\\'] := by decide

/-! ## Shorthands -/

theorem expandShorthands_pair (c : Char) (rest : List Char) :
    expandShorthands ('\\' :: c :: rest)
      = (shorthand? c).getD ['\\', c] ++ expandShorthands rest := by
  rw [expandShorthands]
  cases shorthand? c <;> rfl

theorem expandShorthands_cons {c : Char} (hc : c ≠ '\\') (rest : List Char) :
    expandShorthands (c :: rest) = c :: expandShorthands rest := by
  simp [expandShorthands, hc]

/-- Shorthands are written out piece by piece. -/
theorem expandShorthands_eq (text : List Char) :
    expandShorthands text = (scan text).flatMap Scanned.expanded := by
  induction text using scan_induction with
  | nil => rfl
  | dangling => rfl
  | escape c rest ih => simp [expandShorthands_pair, scan, Scanned.expanded, ih]
  | own c rest hc ih =>
      simp [expandShorthands_cons hc, scan_cons hc, Scanned.expanded, Scanned.written, ih]

theorem expandShorthands_append {front : List Char} (h : isEscaped front = false)
    (rest : List Char) :
    expandShorthands (front ++ rest) = expandShorthands front ++ expandShorthands rest := by
  simp only [expandShorthands_eq, scan_append h, List.flatMap_append]

theorem ne_backslash_of_mem_shorthand? {c d : Char} {set : List Char}
    (h : shorthand? c = some set) (hd : d ∈ set) : d ≠ '\\' := by
  rintro rfl
  unfold shorthand? at h
  split at h
  case h_5 => cases h
  all_goals
    obtain rfl := Option.some.inj h
    simp at hd

theorem scan_append_of_forall_ne {front : List Char} (h : ∀ c ∈ front, c ≠ '\\')
    (rest : List Char) : scan (front ++ rest) = front.map .own ++ scan rest := by
  induction front with
  | nil => rfl
  | cons c front ih =>
      have hc := h c List.mem_cons_self
      have hfront : ∀ d ∈ front, d ≠ '\\' := fun d hd => h d (List.mem_cons_of_mem _ hd)
      rw [List.cons_append, scan_cons hc, ih hfront]
      rfl

/-- Nothing that is escaped in what comes out is a shorthand again. -/
theorem shorthand?_of_mem_scan {text : List Char} {c : Char}
    (h : .escape c ∈ scan (expandShorthands text)) : shorthand? c = none := by
  induction text using scan_induction with
  | nil => simp [expandShorthands, scan] at h
  | dangling => simp [expandShorthands, scan, Scanned.ofChar] at h
  | escape d rest ih =>
      rw [expandShorthands_pair] at h
      cases hset : shorthand? d with
      | none =>
          rw [hset] at h
          rcases List.mem_cons.mp h with heq | hrest
          · obtain rfl := Scanned.escape.inj heq
            exact hset
          · exact ih hrest
      | some set =>
          rw [hset, Option.getD_some,
            scan_append_of_forall_ne fun e he => ne_backslash_of_mem_shorthand? hset he] at h
          rcases List.mem_append.mp h with hset | hrest
          · simp at hset
          · exact ih hrest
  | own d rest hd ih =>
      rw [expandShorthands_cons hd, scan_cons hd] at h
      rcases List.mem_cons.mp h with heq | hrest
      · cases heq
      · exact ih hrest

/-- A text in which no shorthand is escaped is left as it is. -/
theorem expandShorthands_of_free {text : List Char}
    (h : ∀ c, .escape c ∈ scan text → shorthand? c = none) : expandShorthands text = text := by
  have hpiece : ∀ piece ∈ scan text, piece.expanded = piece.written := by
    intro piece hmem
    cases piece with
    | own c => rfl
    | escape c => simp [Scanned.expanded, Scanned.written, h c hmem]
    | dangling => rfl
  calc expandShorthands text
      = (scan text).flatMap Scanned.expanded := expandShorthands_eq text
    _ = (scan text).flatMap Scanned.written := congrArg List.flatten (List.map_congr_left hpiece)
    _ = text := flatMap_written_scan text

theorem expandShorthands_idempotent (text : List Char) :
    expandShorthands (expandShorthands text) = expandShorthands text :=
  expandShorthands_of_free fun _ h => shorthand?_of_mem_scan h

/-! ## What both scans do to a text -/

/-- What is done to a text at either end and in between, told by the scan from the start. -/
structure ScansAgree (text : List Char) : Prop where
  escaped : isEscaped text = true ↔ (scan text).getLast? = some .dangling
  bytes : isEscapedBytes (text.flatMap String.utf8EncodeChar) = isEscaped text
  /-- A dollar sign at the end is taken off just if it is a character of its own. -/
  anchors : dropAnchors text = if (scan text).getLast? = some (.own '$')
    then (dropStartAnchor text).dropLast else dropStartAnchor text
  written : (scan text).flatMap Scanned.written = text
  expanded : expandShorthands text = (scan text).flatMap Scanned.expanded
  append : (scan text).getLast? ≠ some .dangling → ∀ rest : List Char,
    expandShorthands (text ++ rest) = expandShorthands text ++ expandShorthands rest
  idempotent : expandShorthands (expandShorthands text) = expandShorthands text
  free : ∀ c ∈ ['d', 'D', 'w', 'W'], .escape c ∉ scan (expandShorthands text)

theorem scans_agree (text : List Char) : ScansAgree text where
  escaped := isEscaped_iff text
  bytes := isEscapedBytes_utf8 text
  anchors := dropAnchors_eq text
  written := flatMap_written_scan text
  expanded := expandShorthands_eq text
  append := by
    intro hend rest
    have hfree : isEscaped text = false := by
      rw [← Bool.not_eq_true, isEscaped_iff]
      exact hend
    exact expandShorthands_append hfree rest
  idempotent := expandShorthands_idempotent text
  free := by
    intro c hc hmem
    have hnone := shorthand?_of_mem_scan hmem
    simp only [List.mem_cons, List.not_mem_nil, or_false] at hc
    rcases hc with rfl | rfl | rfl | rfl <;> cases hnone

end Specimen.Pattern
