import Specimen.Proofs.Json.Streams
import Specimen.Proofs.Pieces

/-!
# The lines of printed documents

On one line a document has no line break (`newline_not_mem_write`), and over several lines it
has no line without a character that counts (`isUnbroken_write`). Hence the lines of several
documents are the documents, or they are those of the documents with one empty line between
any two. With the reading of the whole text this is all that is asked of a text that holds
documents (`readsBack_writeAll`).
-/

namespace Specimen

namespace Json

variable {style : Style} {d : Json} {values : List Json}

/-! ## Line breaks -/

theorem not_newline_of_isDigit {c : Char} (h : c.isDigit = true) : c ≠ '\n' := by
  rintro rfl
  cases h

theorem newline_not_mem_digits (n : Nat) : '\n' ∉ Decimal.digits n := fun h =>
  not_newline_of_isDigit (Decimal.isDigit_of_mem_digits h) rfl

theorem Literal.IsWritten.newline_not_mem_text {l : Literal} (h : l.IsWritten) : '\n' ∉ l.text := by
  intro hmem
  rcases List.mem_append.mp hmem with hmem | hmem
  · exact not_newline_of_isDigit (h.whole _ hmem) rfl
  rcases List.mem_append.mp hmem with hmem | hmem
  · cases hfraction : l.fraction with
    | none =>
        rw [hfraction] at hmem
        cases hmem
    | some ds =>
        rw [hfraction] at hmem
        rcases List.mem_cons.mp hmem with heq | hmem
        · exact absurd heq (by decide)
        · exact not_newline_of_isDigit ((h.fraction ds hfraction).2 _ hmem) rfl
  · cases hexponent : l.exponent with
    | none =>
        rw [hexponent] at hmem
        cases hmem
    | some e =>
        rw [hexponent] at hmem
        rcases List.mem_cons.mp hmem with heq | hmem
        · exact absurd heq (by decide)
        rcases List.mem_cons.mp hmem with heq | hmem
        · split at heq <;> exact absurd heq (by decide)
        · exact newline_not_mem_digits _ hmem

theorem newline_not_mem_writeNumber {n : Number} (h : n.IsValid) : '\n' ∉ writeNumber n := by
  obtain ⟨negative, l, hl⟩ := exists_prints h
  have htext := hl.isWritten.newline_not_mem_text
  rw [hl.text]
  cases negative with
  | false => exact htext
  | true =>
      intro hmem
      rcases List.mem_cons.mp hmem with heq | hmem
      · exact absurd heq (by decide)
      · exact htext hmem

theorem newline_not_mem_escape (c : Char) : '\n' ∉ escape c := by
  have hdigit : ∀ n < 16, '\n' ≠ hexDigit n := by decide
  unfold escape
  iterate 7 split; decide
  next hnewline _ _ _ _ =>
    split
    · simp [hdigit (c.toNat / 16) (by omega), hdigit (c.toNat % 16) (by omega)]
    · exact fun h => hnewline (List.mem_singleton.mp h).symm

theorem newline_not_mem_quote (s : String) : '\n' ∉ quote s := by
  intro h
  rcases List.mem_cons.mp h with heq | h
  · exact absurd heq (by decide)
  rcases List.mem_append.mp h with h | h
  · obtain ⟨c, -, hc⟩ := List.mem_flatMap.mp h
    exact newline_not_mem_escape c hc
  · exact absurd (List.mem_singleton.mp h) (by decide)

mutual

/-- On one line there is no line break. -/
theorem newline_not_mem_write : ∀ d : Json, d.IsValid → ∀ k, '\n' ∉ d.write .compact k
  | null, _, _ => (by decide : '\n' ∉ ['n', 'u', 'l', 'l'])
  | bool true, _, _ => (by decide : '\n' ∉ ['t', 'r', 'u', 'e'])
  | bool false, _, _ => (by decide : '\n' ∉ ['f', 'a', 'l', 's', 'e'])
  | number n, h, _ => by
      cases h with
      | number h => exact newline_not_mem_writeNumber h
  | string s, _, _ => newline_not_mem_quote s
  | array [], _, _ => (by decide : '\n' ∉ ['[', ']'])
  | array (item :: more), h, k => by
      cases h with
      | array h =>
          have hitems := newline_not_mem_writeItems (item :: more) h (k + 1)
          simpa [write, Style.compact] using hitems
  | object [], _, _ => (by decide : '\n' ∉ ['\x7b', '\x7d'])
  | object (field :: more), h, k => by
      cases h with
      | object hordered h =>
          have hfields := newline_not_mem_writeFields (field :: more) h (k + 1)
          simpa [write, Style.compact] using hfields

theorem newline_not_mem_writeItems : ∀ items : List Json, (∀ item ∈ items, item.IsValid) →
    ∀ k, '\n' ∉ writeItems .compact k items
  | [], _, _ => List.not_mem_nil
  | [item], h, k => newline_not_mem_write item (h item List.mem_cons_self) k
  | item :: next :: more, h, k => by
      have hitem := newline_not_mem_write item (h item List.mem_cons_self) k
      have hmore := newline_not_mem_writeItems (next :: more)
        (fun other hother => h other (List.mem_cons_of_mem _ hother)) k
      simp only [writeItems, List.mem_append, List.mem_cons, not_or]
      exact ⟨⟨List.not_mem_nil, hitem⟩, by decide, hmore⟩

theorem newline_not_mem_writeFields : ∀ fields : List (String × Json),
    (∀ field ∈ fields, field.2.IsValid) → ∀ k, '\n' ∉ writeFields .compact k fields
  | [], _, _ => List.not_mem_nil
  | [(name, value)], h, k => by
      have hvalue := newline_not_mem_write value (h (name, value) List.mem_cons_self) k
      simp only [writeFields, List.mem_append, List.mem_cons, not_or]
      exact ⟨⟨⟨List.not_mem_nil, newline_not_mem_quote name⟩, by decide, List.not_mem_nil⟩, hvalue⟩
  | (name, value) :: next :: more, h, k => by
      have hvalue := newline_not_mem_write value (h (name, value) List.mem_cons_self) k
      have hmore := newline_not_mem_writeFields (next :: more)
        (fun other hother => h other (List.mem_cons_of_mem _ hother)) k
      simp only [writeFields, List.mem_append, List.mem_cons, not_or]
      refine ⟨⟨⟨⟨List.not_mem_nil, newline_not_mem_quote name⟩, ?_, List.not_mem_nil⟩, hvalue⟩,
        ?_, hmore⟩ <;> decide

end

/-! ## Lines -/

/-- No line of the text is empty or has blanks only. -/
def IsUnbroken (s : List Char) : Prop := ∀ line ∈ pieces '\n' s, ∃ c ∈ line, isBlank c = false

variable {s t : List Char}

theorem isUnbroken_of_not_mem (h : '\n' ∉ s) (hs : ∃ c ∈ s, isBlank c = false) : IsUnbroken s := by
  intro line hline
  rw [pieces_of_not_mem h, List.mem_singleton] at hline
  exact hline ▸ hs

theorem IsUnbroken.append (hs : IsUnbroken s) (ht : IsUnbroken t) :
    IsUnbroken (s ++ '\n' :: t) := by
  intro line hline
  rw [pieces_append, List.mem_append] at hline
  exact hline.elim (hs line) (ht line)

theorem IsUnbroken.inside {p q : List Char} (hs : IsUnbroken s) (hp : '\n' ∉ p) (hq : '\n' ∉ q) :
    IsUnbroken (p ++ (s ++ q)) := by
  have hpieces := forall₂_subset_pieces hp hq s
  unfold IsUnbroken at hs ⊢
  generalize pieces '\n' s = lines at hs hpieces
  generalize pieces '\n' (p ++ (s ++ q)) = longer at hpieces
  induction hpieces with
  | nil => exact nofun
  | cons hline _ ih =>
      intro longer hlonger
      rcases List.mem_cons.mp hlonger with rfl | hlonger
      · obtain ⟨c, hmem, hblank⟩ := hs _ List.mem_cons_self
        exact ⟨c, hline hmem, hblank⟩
      · exact ih (fun line hmem => hs line (List.mem_cons_of_mem _ hmem)) longer hlonger

theorem newline_not_mem_replicate (n : Nat) : '\n' ∉ List.replicate n ' ' := fun h =>
  absurd (List.eq_of_mem_replicate h) (by decide)

/-- The parts of a container stand on lines of their own between its brackets. -/
theorem isUnbroken_container {o c : Char} (hopen : '\n' ≠ o ∧ isBlank o = false)
    (hclose : '\n' ≠ c ∧ isBlank c = false) (k : Nat) (hs : IsUnbroken s) :
    IsUnbroken (o :: '\n' :: s ++ Style.indented.lineBreak k ++ [c]) := by
  have hbracket {e : Char} (he : '\n' ≠ e ∧ isBlank e = false) : IsUnbroken [e] :=
    isUnbroken_of_not_mem (fun h => he.1 (List.mem_singleton.mp h)) ⟨e, List.mem_cons_self, he.2⟩
  have hlast : IsUnbroken (List.replicate (2 * k) ' ' ++ ([c] ++ [])) :=
    (hbracket hclose).inside (newline_not_mem_replicate _) List.not_mem_nil
  have hall := (hbracket hopen).append (hs.append hlast)
  simpa [Style.indented] using hall

theorem newline_not_mem_name (k : Nat) (name : String) :
    '\n' ∉ List.replicate (2 * k) ' ' ++ (quote name ++ [':', ' ']) := by
  simp only [List.mem_append, not_or]
  exact ⟨newline_not_mem_replicate _, newline_not_mem_quote name, by decide⟩

theorem isUnbroken_scalar {k : Nat} (hd : d.IsValid) (h : '\n' ∉ d.write .indented k) :
    IsUnbroken (d.write .indented k) := by
  obtain ⟨c, s, hwrite, hblank, -⟩ := write_head .indented k hd
  exact isUnbroken_of_not_mem h ⟨c, hwrite ▸ List.mem_cons_self, hblank⟩

mutual

/-- Over several lines every line has a character that counts. -/
theorem isUnbroken_write : ∀ d : Json, d.IsValid → ∀ k, IsUnbroken (d.write .indented k)
  | null, h, _ => isUnbroken_scalar h (by decide : '\n' ∉ ['n', 'u', 'l', 'l'])
  | bool true, h, _ => isUnbroken_scalar h (by decide : '\n' ∉ ['t', 'r', 'u', 'e'])
  | bool false, h, _ =>
      isUnbroken_scalar h (by decide : '\n' ∉ ['f', 'a', 'l', 's', 'e'])
  | number n, h, _ => by
      refine isUnbroken_scalar h ?_
      cases h with
      | number h => exact newline_not_mem_writeNumber h
  | string s, h, _ => isUnbroken_scalar h (newline_not_mem_quote s)
  | array [], h, _ => isUnbroken_scalar h (by decide : '\n' ∉ ['[', ']'])
  | array (item :: more), h, k => by
      cases h with
      | array h =>
          obtain ⟨body, hitems, hbody⟩ :=
            isUnbroken_writeItems (item :: more) (by simp) h (k + 1)
          rw [write, hitems]
          exact isUnbroken_container (by decide) (by decide) k hbody
  | object [], h, _ => isUnbroken_scalar h (by decide : '\n' ∉ ['\x7b', '\x7d'])
  | object (field :: more), h, k => by
      cases h with
      | object hordered h =>
          obtain ⟨body, hfields, hbody⟩ :=
            isUnbroken_writeFields (field :: more) (by simp) h (k + 1)
          rw [write, hfields]
          exact isUnbroken_container (by decide) (by decide) k hbody

theorem isUnbroken_writeItems : ∀ items : List Json, items ≠ [] →
    (∀ item ∈ items, item.IsValid) →
    ∀ k, ∃ body, writeItems .indented k items = '\n' :: body ∧ IsUnbroken body
  | [item], _, h, k => by
      have hitem := isUnbroken_write item (h item List.mem_cons_self) k
      refine ⟨_, rfl, ?_⟩
      have hbody := hitem.inside (newline_not_mem_replicate (2 * k)) List.not_mem_nil
      rwa [List.append_nil] at hbody
  | item :: next :: more, _, h, k => by
      have hitem := isUnbroken_write item (h item List.mem_cons_self) k
      obtain ⟨body, hmore, hbody⟩ := isUnbroken_writeItems (next :: more) (by simp)
        (fun other hother => h other (List.mem_cons_of_mem _ hother)) k
      refine ⟨_, rfl, ?_⟩
      have hline := hitem.inside (newline_not_mem_replicate (2 * k)) (by decide : '\n' ∉ [','])
      have hall := hline.append hbody
      rw [← hmore] at hall
      simpa using hall

theorem isUnbroken_writeFields : ∀ fields : List (String × Json), fields ≠ [] →
    (∀ field ∈ fields, field.2.IsValid) →
    ∀ k, ∃ body, writeFields .indented k fields = '\n' :: body ∧ IsUnbroken body
  | [(name, value)], _, h, k => by
      have hvalue := isUnbroken_write value (h (name, value) List.mem_cons_self) k
      refine ⟨_, rfl, ?_⟩
      have hbody := hvalue.inside (newline_not_mem_name k name) List.not_mem_nil
      simpa [Style.indented] using hbody
  | (name, value) :: next :: more, _, h, k => by
      have hvalue := isUnbroken_write value (h (name, value) List.mem_cons_self) k
      obtain ⟨body, hmore, hbody⟩ := isUnbroken_writeFields (next :: more) (by simp)
        (fun other hother => h other (List.mem_cons_of_mem _ hother)) k
      refine ⟨_, rfl, ?_⟩
      have hline := hvalue.inside (newline_not_mem_name k name) (by decide : '\n' ∉ [','])
      have hall := hline.append hbody
      rw [← hmore] at hall
      simpa [Style.indented] using hall

end

/-! ## The lines of several documents -/

theorem pieces_writeAll_compact (hvalues : ∀ v ∈ values, v.IsValid) :
    pieces '\n' (writeAll false values) = values.map (write .compact 0) ++ [[]] := by
  induction values with
  | nil => rfl
  | cons d more ih =>
      have hline := newline_not_mem_write d (hvalues d List.mem_cons_self) 0
      rw [writeAll_cons, pieces_append]
      show pieces '\n' (d.write .compact 0)
        ++ pieces '\n' (gap false more ++ writeAll false more) = _
      have hgap : gap false more = [] := by cases more <;> rfl
      rw [hgap, List.nil_append, pieces_of_not_mem hline,
        ih fun v hv => hvalues v (List.mem_cons_of_mem _ hv)]
      rfl

theorem pieces_writeAll_indented (values : List Json) :
    pieces '\n' (writeAll true values)
      = [[]].intercalate ((values.map (write .indented 0)).map (pieces '\n')) ++ [[]] := by
  induction values with
  | nil => rfl
  | cons d more ih =>
      rw [writeAll_cons, pieces_append]
      show pieces '\n' (d.write .indented 0)
        ++ pieces '\n' (gap true more ++ writeAll true more) = _
      cases more with
      | nil => simp [gap, writeAll, pieces]
      | cons next more =>
          have hgap : pieces '\n' (gap true (next :: more) ++ writeAll true (next :: more))
              = [] :: pieces '\n' (writeAll true (next :: more)) := if_pos rfl
          rw [hgap, ih]
          simp [List.intercalate]

/-! ## Texts that read back -/

/-- The text is that of the values, and tells them and how they were set out. -/
structure ReadsBack (isIndented : Bool) (values : List Json) (text : List Char) : Prop where
  /-- The documents of the text, one after another, are the values. -/
  stream : ∀ depth, readStream? depth text
    = if ∀ v ∈ values, v.nesting ≤ depth then some values else none
  /-- On single lines, there is one line for each value, and it is that value alone. -/
  lines : isIndented = false → ∃ lines : List (List Char),
    pieces '\n' text = lines ++ [[]] ∧ List.Forall₂ Denotes lines values
  /-- Over several lines, each value has lines of which none is blank, and there is one empty
  line between those of a value and those of the next. -/
  blocks : isIndented = true → ∃ texts : List (List Char),
    pieces '\n' text = [[]].intercalate (texts.map (pieces '\n')) ++ [[]]
      ∧ (∀ s ∈ texts, IsUnbroken s) ∧ List.Forall₂ Denotes texts values
  /-- No other documents are printed as this text. -/
  only : ∀ (otherIndented : Bool) (others : List Json), (∀ v ∈ others, v.IsValid) →
    writeAll otherIndented others = text → others = values

theorem forall₂_denotes (hstyle : style.IsBlank) (hvalues : ∀ v ∈ values, v.IsValid) :
    List.Forall₂ Denotes (values.map (write style 0)) values := by
  rw [List.forall₂_map_left_iff, List.forall₂_same]
  exact fun v hv => denotes_write hstyle (hvalues v hv) 0

theorem readsBack_writeAll (isIndented : Bool) (hvalues : ∀ v ∈ values, v.IsValid) :
    ReadsBack isIndented values (writeAll isIndented values) where
  stream := readStream?_writeAll hvalues
  lines hcompact := by
    subst hcompact
    exact ⟨_, pieces_writeAll_compact hvalues, forall₂_denotes Style.isBlank_compact hvalues⟩
  blocks hindented := by
    subst hindented
    refine ⟨_, pieces_writeAll_indented values, ?_, forall₂_denotes Style.isBlank_indented hvalues⟩
    intro s hs
    obtain ⟨v, hv, rfl⟩ := List.mem_map.mp hs
    exact isUnbroken_write v (hvalues v hv) 0
  only otherIndented others hothers h := eq_of_writeAll_eq hvalues hothers h

end Json

end Specimen
