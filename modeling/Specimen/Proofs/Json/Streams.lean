import Specimen.Proofs.Json.ReadBack

/-!
# Several documents in one text

Documents that are printed one after another are read one after another, and none is left over
(`readStream?_writeAll`). So no other documents have the same text, however they are set out
(`eq_of_writeAll_eq`).
-/

namespace Specimen.Json

/-! ## Reading -/

/-- The document that a whole text denotes, with at most `depth` containers open at once. -/
def readDocument? (depth : Nat) (s : List Char) : Option Json :=
  match readValue? (2 * s.length + 2) depth s with
  | some (d, rest) => if (skipBlanks rest).isEmpty then some d.normalize else none
  | none => none

theorem read?_eq_readDocument? (text : String) :
    read? text = readDocument? depthLimit text.toList := by
  unfold read? readWritten? readFront? readDocument?
  cases readValue? (2 * text.toList.length + 2) depthLimit text.toList with
  | none => rfl
  | some front =>
      dsimp only
      split <;> rfl

/-- Whether a document may end before a text: there is nothing left, or a blank follows. -/
def endsDocument : List Char → Bool
  | [] => true
  | c :: _ => isBlank c

/-- The documents of a text one after another, not more than `fuel` of them. -/
def readAll? (fuel depth : Nat) (s : List Char) : Option (List Json) :=
  match fuel, skipBlanks s with
  | _, [] => some []
  | 0, _ => none
  | fuel + 1, s =>
    match readValue? (2 * s.length + 2) depth s with
    | none => none
    | some (d, rest) =>
      if endsDocument rest then (readAll? fuel depth rest).map (d.normalize :: ·) else none

/-- The documents of a text one after another, up to its end. -/
def readStream? (depth : Nat) (s : List Char) : Option (List Json) := readAll? s.length depth s

/-- The text is that of the document alone: it is read as the document as soon as containers
may be open as deep as the document has them. -/
def Denotes (s : List Char) (d : Json) : Prop :=
  ∀ depth, readDocument? depth s = if d.nesting ≤ depth then some d else none

/-! ## Documents one after another -/

variable {style : Style} {d : Json} {rest : List Char}

theorem endsNumber_of_endsDocument (h : endsDocument rest = true) : EndsNumber rest := by
  cases rest with
  | nil => exact nofun
  | cons c rest =>
      have hblank : ∀ e ∈ [c], isBlank e = true := fun e he => List.mem_singleton.mp he ▸ h
      rintro _ ⟨⟩
      exact endsNumber_append hblank (nofun : EndsNumber []) c rfl

theorem denotes_write (hstyle : style.IsBlank) (hd : d.IsValid) (k : Nat) :
    Denotes (d.write style k) d := by
  intro depth
  have hread := readValue?_write hstyle d hd (2 * (d.write style k).length + 2) depth k []
    (by omega) nofun
  rw [List.append_nil] at hread
  unfold readDocument?
  rw [hread]
  by_cases hdepth : d.nesting ≤ depth
  · rw [if_pos hdepth, if_pos hdepth]
    exact congrArg some (normalize_of_isValid d hd)
  · rw [if_neg hdepth, if_neg hdepth]

/-- One document is taken off the front of a text. -/
theorem readAll?_write (hstyle : style.IsBlank) (hd : d.IsValid) (fuel depth k : Nat)
    {b : List Char} (hb : ∀ c ∈ b, isBlank c = true) (hrest : endsDocument rest = true) :
    readAll? (fuel + 1) depth (b ++ (d.write style k ++ rest))
      = if d.nesting ≤ depth then (readAll? fuel depth rest).map (d :: ·) else none := by
  obtain ⟨c, s, hwrite, hblank, -⟩ := write_head style k hd
  have hskip : skipBlanks (b ++ (d.write style k ++ rest)) = d.write style k ++ rest := by
    rw [skipBlanks_append hb, hwrite, List.cons_append, skipBlanks_cons hblank]
  have hread := readValue?_write hstyle d hd (2 * (d.write style k ++ rest).length + 2) depth k rest
    (by rw [List.length_append]; omega) (endsNumber_of_endsDocument hrest)
  conv_lhs => unfold readAll?
  rw [hskip]
  split
  · next heq =>
      rw [hwrite] at heq
      cases heq
  · next heq _ => cases heq
  · next heq _ =>
      obtain rfl := Nat.succ.inj heq
      rw [hread]
      by_cases hdepth : d.nesting ≤ depth
      · rw [if_pos hdepth, if_pos hdepth]
        dsimp only
        rw [if_pos hrest, normalize_of_isValid d hd]
      · rw [if_neg hdepth, if_neg hdepth]

/-! ## The text of several documents -/

/-- How each of several documents is set out. -/
def Style.ofIndented (isIndented : Bool) : Style := if isIndented then .indented else .compact

theorem Style.isBlank_ofIndented (isIndented : Bool) : (Style.ofIndented isIndented).IsBlank := by
  cases isIndented with
  | false => exact Style.isBlank_compact
  | true => exact Style.isBlank_indented

/-- What stands between the line of a document and the next document. -/
def gap (isIndented : Bool) : List Json → List Char
  | [] => []
  | _ :: _ => if isIndented then ['\n'] else []

theorem writeAll_cons (isIndented : Bool) (d : Json) (more : List Json) :
    writeAll isIndented (d :: more)
      = d.write (.ofIndented isIndented) 0
        ++ '\n' :: (gap isIndented more ++ writeAll isIndented more) := by
  cases more with
  | nil => rfl
  | cons next more => simp [writeAll, gap, Style.ofIndented]

theorem isBlank_of_mem_gap {isIndented : Bool} {values : List Json} {c : Char}
    (h : c ∈ gap isIndented values) : isBlank c = true := by
  unfold gap at h
  split at h
  · cases h
  · split at h
    · rw [List.mem_singleton.mp h]
      decide
    · cases h

theorem length_le_writeAll (isIndented : Bool) (values : List Json) :
    values.length ≤ (writeAll isIndented values).length := by
  induction values with
  | nil => exact le_rfl
  | cons d more ih =>
      rw [writeAll_cons, List.length_append, List.length_cons, List.length_cons, List.length_append]
      omega

variable {isIndented : Bool} {values : List Json}

/-- The induction takes along the blanks that the document before has left. -/
theorem readAll?_writeAll (depth : Nat) (hvalues : ∀ v ∈ values, v.IsValid) :
    ∀ (fuel : Nat) (b : List Char), values.length ≤ fuel → (∀ c ∈ b, isBlank c = true) →
      readAll? fuel depth (b ++ writeAll isIndented values)
        = if ∀ v ∈ values, v.nesting ≤ depth then some values else none := by
  induction values with
  | nil =>
      intro fuel b _ hb
      have hskip : skipBlanks (b ++ writeAll isIndented []) = [] := skipBlanks_append hb
      unfold readAll?
      rw [hskip]
      rfl
  | cons d more ih =>
      intro fuel b hfuel hb
      rw [List.length_cons] at hfuel
      obtain ⟨fuel, rfl⟩ : ∃ n, fuel = n + 1 := ⟨fuel - 1, by omega⟩
      have hgap : ∀ c ∈ '\n' :: gap isIndented more, isBlank c = true := by
        intro c hc
        rcases List.mem_cons.mp hc with rfl | hc
        · decide
        · exact isBlank_of_mem_gap hc
      have hmore := ih (fun v hv => hvalues v (List.mem_cons_of_mem _ hv)) fuel _ (by omega) hgap
      rw [writeAll_cons, readAll?_write (Style.isBlank_ofIndented isIndented)
        (hvalues d List.mem_cons_self) fuel depth 0 hb (by rfl), ← List.cons_append, hmore]
      by_cases hdepth : d.nesting ≤ depth <;> simp [hdepth]

/-- What is printed of several documents is read as those documents and no other. -/
theorem readStream?_writeAll (hvalues : ∀ v ∈ values, v.IsValid) (depth : Nat) :
    readStream? depth (writeAll isIndented values)
      = if ∀ v ∈ values, v.nesting ≤ depth then some values else none :=
  readAll?_writeAll depth hvalues _ [] (length_le_writeAll isIndented values) nofun

/-- No two lists of documents have one text, however they are set out. -/
theorem eq_of_writeAll_eq {others : List Json} {otherIndented : Bool}
    (hvalues : ∀ v ∈ values, v.IsValid) (hothers : ∀ v ∈ others, v.IsValid)
    (h : writeAll otherIndented others = writeAll isIndented values) : others = values := by
  -- Both are read with as many containers open as the deepest of the documents has.
  let depth := nestingItems (values ++ others)
  have hread : readStream? depth (writeAll isIndented values) = some values := by
    rw [readStream?_writeAll hvalues, if_pos]
    exact fun v hv => nesting_le_nestingItems (List.mem_append_left _ hv)
  have hother : readStream? depth (writeAll otherIndented others) = some others := by
    rw [readStream?_writeAll hothers, if_pos]
    exact fun v hv => nesting_le_nestingItems (List.mem_append_right _ hv)
  rw [h, hread] at hother
  exact (Option.some.inj hother).symm

end Specimen.Json
