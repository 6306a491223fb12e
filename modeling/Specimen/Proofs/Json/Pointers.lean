import Specimen.Json.Pointer
import Specimen.Proofs.Decimal.Digits
import Specimen.Proofs.Pieces

/-!
# Places in documents

A place in a document is a path of fields and items (`Json.valueAt?`), and a pointer is one way
to write it. Every place has a pointer that is walked to it, whatever the names of its fields
hold, because what is escaped holds no slash and reads back (`unescape_escape`). A pointer that
is walked to a value has named a place in turn: each of its segments is, unescaped, the text of
one step (`follow?_eq_some_iff`). Which step that is depends on the value it is taken from, as
the name of a field can look like the position of an item; but in an array no text is read as a
position except its decimal digits (`index?_eq_some_iff`).
-/

namespace Specimen

/-! ## Places -/

/-- A step from a value to one that it holds. -/
inductive Pointer.Step where
  | field (name : String)
  | item (position : Nat)

/-- The value that a step leads to. -/
def Json.child? : Json → Pointer.Step → Option Json
  | .object fields, .field name => Fields.get? fields name
  | .array items, .item position => items[position]?
  | _, _ => none

/-- The value at the end of a path. -/
def Json.valueAt? (d : Json) : List Pointer.Step → Option Json
  | [] => some d
  | step :: rest => (d.child? step).bind (·.valueAt? rest)

namespace Pointer

/-- A step as it is written where nothing has to be escaped. -/
def Step.text : Step → List Char
  | field name => name.toList
  | item position => Decimal.digits position

/-- A text without the characters that have a meaning in pointers. -/
def escape (text : List Char) : List Char :=
  text.flatMap fun c => if c = '~' then ['~', '0'] else if c = '/' then ['~', '1'] else [c]

/-- The pointer that consists of segments, each after a slash. -/
def ofSegments (segments : List (List Char)) : String := .ofList (segments.flatMap ('/' :: ·))

/-- The pointer to the end of a path. -/
def ofPath (path : List Step) : String := ofSegments (path.map fun step => escape step.text)

/-- A text with one character for every two that stand for it, found from the front. -/
def contract (first second out : Char) : List Char → List Char
  | a :: b :: rest =>
    if a = first ∧ b = second then out :: contract first second out rest
    else a :: contract first second out (b :: rest)
  | short => short

/-! ## Escapes -/

theorem unescape_cons {c : Char} (hc : c ≠ '~') (rest : List Char) :
    unescape (c :: rest) = c :: unescape rest := by
  rw [unescape]
  all_goals
    intro _ h _
    exact hc h

/-- What is escaped reads back. -/
theorem unescape_escape (text : List Char) : unescape (escape text) = text := by
  induction text with
  | nil => rfl
  | cons c text ih =>
      unfold escape at ih ⊢
      rw [List.flatMap_cons]
      by_cases htilde : c = '~'
      · simp [htilde, unescape, ih]
      · by_cases hslash : c = '/'
        · simp [hslash, unescape, ih]
        · rw [if_neg htilde, if_neg hslash, List.singleton_append, unescape_cons htilde, ih]

theorem slash_not_mem_escape (text : List Char) : '/' ∉ escape text := by
  intro hmem
  obtain ⟨c, -, hc⟩ := List.mem_flatMap.mp hmem
  by_cases htilde : c = '~'
  · simp [htilde] at hc
  · by_cases hslash : c = '/'
    · simp [hslash] at hc
    · rw [if_neg htilde, if_neg hslash, List.mem_singleton] at hc
      exact hslash hc.symm

theorem contract_cons {first second out c : Char} (hc : c ≠ first) (rest : List Char) :
    contract first second out (c :: rest) = c :: contract first second out rest := by
  cases rest with
  | nil => rfl
  | cons d rest => rw [contract, if_neg fun h => hc h.1]

theorem contract_head (first second out c : Char) (rest : List Char) :
    ∃ tail, contract first second out (c :: rest) = c :: tail
      ∨ contract first second out (c :: rest) = out :: tail := by
  cases rest with
  | nil => exact ⟨[], .inl rfl⟩
  | cons d rest =>
      rw [contract]
      split
      · exact ⟨_, .inr rfl⟩
      · exact ⟨_, .inl rfl⟩

/-- Undoing both escapes at once is undoing that of the slash first and that of the tilde
second: a slash that comes back is no tilde, so it never completes an escape. -/
theorem unescape_eq_contract (text : List Char) :
    unescape text = contract '~' '0' '~' (contract '~' '1' '/' text) := by
  fun_induction unescape text with
  | case1 => rfl
  | case2 rest ih => simp [contract, contract_cons, ih]
  | case3 rest ih => simp [contract, contract_cons, ih]
  | case4 c rest hzero hone ih =>
      by_cases hc : c = '~'
      · subst hc
        cases rest with
        | nil => rfl
        | cons d rest =>
            have hd0 : d ≠ '0' := fun h => hzero rest rfl (by rw [h])
            have hd1 : d ≠ '1' := fun h => hone rest rfl (by rw [h])
            rw [ih, contract, if_neg fun h => hd1 h.2]
            obtain ⟨tail, htail | htail⟩ := contract_head '~' '1' '/' d rest
            · rw [htail, contract, if_neg fun h => hd0 h.2]
            · rw [htail]
              rfl
      · rw [contract_cons hc, contract_cons hc, ih]

/-! ## Steps -/

theorem index?_digits (i : Nat) : index? (Decimal.digits i) = some i := by
  have hall : (Decimal.digits i).all Char.isDigit = true :=
    List.all_eq_true.mpr fun c hc => Decimal.isDigit_of_mem_digits hc
  rcases Nat.eq_zero_or_pos i with rfl | hpos
  · rfl
  · have hhead := Decimal.head?_digits hpos
    unfold index?
    split
    · next hnil => exact absurd hnil (Decimal.digits_ne_nil i)
    · next hzero => exact absurd (congrArg List.head? hzero) hhead
    · next hzero => exact absurd (congrArg List.head? hzero) hhead
    · rw [if_pos hall, Decimal.decimal_digits]

/-- A text is read as a position just if it is the digits of that position. -/
theorem index?_eq_some_iff {text : List Char} {i : Nat} :
    index? text = some i ↔ text = Decimal.digits i := by
  constructor
  · intro h
    unfold index? at h
    split at h
    · cases h
    · cases h
      rfl
    · cases h
    · next hne hzero hfront =>
        by_cases hall : text.all Char.isDigit = true
        · rw [if_pos hall] at h
          obtain rfl := Option.some.inj h
          refine (Decimal.digits_decimal ⟨hne, List.all_eq_true.mp hall, .inr fun hhead => ?_⟩).symm
          obtain ⟨rest, hrest⟩ := List.head?_eq_some_iff.mp hhead
          exact hfront rest hrest
        · rw [if_neg hall] at h
          cases h
  · rintro rfl
    exact index?_digits i

/-- What a text leads to is what one step leads to that is written like that. -/
theorem step?_eq_some_iff {d v : Json} {text : List Char} :
    step? d text = some v ↔ ∃ step : Step, step.text = text ∧ d.child? step = some v := by
  constructor
  · intro h
    cases d with
    | object fields => exact ⟨.field (.ofList text), String.toList_ofList, h⟩
    | array items =>
        obtain ⟨i, hi, hitem⟩ := Option.bind_eq_some_iff.mp h
        exact ⟨.item i, (index?_eq_some_iff.mp hi).symm, hitem⟩
    | _ => cases h
  · rintro ⟨step, rfl, h⟩
    cases d with
    | object fields =>
        cases step with
        | field name =>
            show Fields.get? fields (.ofList name.toList) = some v
            rw [String.ofList_toList]
            exact h
        | item i => cases h
    | array items =>
        cases step with
        | field name => cases h
        | item i => exact Option.bind_eq_some_iff.mpr ⟨i, index?_digits i, h⟩
    | _ => cases step <;> cases h

/-- Texts are followed along a path whose steps are written like that. -/
theorem follow?_eq_some_iff {v : Json} : ∀ {texts : List (List Char)} {d : Json},
    follow? d texts = some v
      ↔ ∃ path : List Step, path.map Step.text = texts ∧ d.valueAt? path = some v
  | [], d => by
      constructor
      · intro h
        exact ⟨[], rfl, h⟩
      · rintro ⟨path, hpath, h⟩
        obtain rfl := List.map_eq_nil_iff.mp hpath
        exact h
  | text :: texts, d => by
      constructor
      · intro h
        obtain ⟨w, hw, hrest⟩ := Option.bind_eq_some_iff.mp h
        obtain ⟨step, htext, hchild⟩ := step?_eq_some_iff.mp hw
        obtain ⟨path, hpath, hvalue⟩ := follow?_eq_some_iff.mp hrest
        refine ⟨step :: path, by rw [List.map_cons, htext, hpath], ?_⟩
        exact Option.bind_eq_some_iff.mpr ⟨w, hchild, hvalue⟩
      · rintro ⟨path, hpath, h⟩
        obtain ⟨step, path, rfl, htext, hpath⟩ := List.map_eq_cons_iff.mp hpath
        obtain ⟨w, hchild, hvalue⟩ := Option.bind_eq_some_iff.mp h
        refine Option.bind_eq_some_iff.mpr ⟨w, step?_eq_some_iff.mpr ⟨step, htext, hchild⟩, ?_⟩
        exact follow?_eq_some_iff.mpr ⟨path, hpath, hvalue⟩

theorem follow?_append (d : Json) (as bs : List (List Char)) :
    follow? d (as ++ bs) = (follow? d as).bind (follow? · bs) := by
  induction as generalizing d with
  | nil => rfl
  | cons a as ih =>
      rw [List.cons_append, follow?, follow?]
      cases step? d a with
      | none => rfl
      | some w => exact ih w

/-! ## Segments -/

theorem cons_intercalate {segments : List (List Char)} (h : segments ≠ []) :
    '/' :: ['/'].intercalate segments = segments.flatMap ('/' :: ·) := by
  induction segments with
  | nil => exact absurd rfl h
  | cons segment segments ih =>
      cases segments with
      | nil => simp
      | cons next segments =>
          rw [List.intercalate_cons_cons, List.flatMap_cons, ← ih (List.cons_ne_nil _ _)]
          simp

/-- The steps of a pointer are its segments, unescaped. -/
theorem steps_ofSegments {segments : List (List Char)} (h : ∀ s ∈ segments, '/' ∉ s) :
    steps (ofSegments segments).toList = segments.map unescape := by
  unfold ofSegments
  rw [String.toList_ofList]
  by_cases hnil : segments = []
  · subst hnil
    rfl
  · rw [← cons_intercalate hnil]
    show (pieces '/' (['/'].intercalate segments)).map unescape = _
    rw [pieces_intercalate h hnil]

/-- A pointer with a slash in front has segments. -/
theorem exists_segments {pointer : String} (h : pointer.toList.head? = some '/') :
    ∃ segments, pointer = ofSegments segments ∧ ∀ s ∈ segments, '/' ∉ s := by
  obtain ⟨rest, hrest⟩ := List.head?_eq_some_iff.mp h
  refine ⟨pieces '/' rest, ?_, not_mem_of_mem_pieces⟩
  unfold ofSegments
  rw [← cons_intercalate (pieces_ne_nil rest), intercalate_pieces, ← hrest, String.ofList_toList]

theorem steps_ofPath (path : List Step) : steps (ofPath path).toList = path.map Step.text := by
  unfold ofPath
  rw [steps_ofSegments]
  · simp [unescape_escape]
  · intro s hs
    obtain ⟨step, -, rfl⟩ := List.mem_map.mp hs
    exact slash_not_mem_escape step.text

end Pointer

/-! ## Walks -/

namespace Json

open Pointer

variable {d v : Json}

/-- What the segments of a pointer are walked to stands at the path that they spell. -/
theorem walk?_ofSegments {segments : List (List Char)} (h : ∀ s ∈ segments, '/' ∉ s) :
    d.walk? (ofSegments segments) = some v
      ↔ ∃ path : List Step, path.map Step.text = segments.map unescape
        ∧ d.valueAt? path = some v := by
  unfold walk?
  rw [steps_ofSegments h, follow?_eq_some_iff]

theorem walk?_ofPath {path : List Step} (h : d.valueAt? path = some v) :
    d.walk? (ofPath path) = some v := by
  unfold walk?
  rw [steps_ofPath]
  exact follow?_eq_some_iff.mpr ⟨path, rfl, h⟩

/-- No segment leads out of an array that is not the numeral of one of its positions. -/
theorem walk?_array {before after : List (List Char)} {segment : List Char} {items : List Json}
    (h : ∀ s ∈ before ++ segment :: after, '/' ∉ s)
    (harray : d.walk? (ofSegments before) = some (.array items))
    (hsegment : ¬ (Digits.IsNumeral (unescape segment)
      ∧ Digits.decimal (unescape segment) < items.length)) :
    d.walk? (ofSegments (before ++ segment :: after)) = none := by
  have hstep : step? (.array items) (unescape segment) = none := by
    refine Option.eq_none_iff_forall_ne_some.mpr fun w hw => hsegment ?_
    obtain ⟨step, htext, hchild⟩ := step?_eq_some_iff.mp hw
    cases step with
    | field name => cases hchild
    | item i =>
        obtain ⟨hlt, -⟩ := List.getElem?_eq_some_iff.mp hchild
        rw [← htext]
        show Digits.IsNumeral (Decimal.digits i) ∧ Digits.decimal (Decimal.digits i) < items.length
        rw [Decimal.decimal_digits]
        exact ⟨Decimal.isNumeral_digits i, hlt⟩
  have hbefore : ∀ s ∈ before, '/' ∉ s := fun s hs => h s (List.mem_append_left _ hs)
  unfold walk? at harray ⊢
  rw [steps_ofSegments hbefore] at harray
  rw [steps_ofSegments h, List.map_append, follow?_append, harray, List.map_cons]
  show (step? (.array items) (unescape segment)).bind _ = none
  rw [hstep]
  rfl

/-- The slash in front may be left out. -/
theorem walk?_slash {pointer : String} (hne : pointer ≠ "")
    (hhead : pointer.toList.head? ≠ some '/') (d : Json) :
    d.walk? pointer = d.walk? ("/" ++ pointer) := by
  have hslash : ("/" ++ pointer).toList = '/' :: pointer.toList := by simp
  unfold walk?
  rw [hslash]
  cases hchars : pointer.toList with
  | nil => exact absurd (String.toList_eq_nil_iff.mp hchars) hne
  | cons c rest =>
      rw [hchars] at hhead
      have hc : c ≠ '/' := fun h => hhead (congrArg some h)
      have hsteps : steps (c :: rest) = (pieces '/' (c :: rest)).map unescape := by
        rw [steps]
        · exact List.cons_ne_nil c rest
        · intro rest' h
          exact hc (List.cons.inj h).1
      rw [hsteps]
      rfl

/-- Pointers lead to the places of a document and nowhere else. The pointer to a place is
walked to the value there, and a pointer that is walked to a value has the steps of a path to
it as its segments, once `~1` and then `~0` are read in them. In an array only the numeral of
a position leads on. -/
theorem walk?_places (root : Json) :
    (∀ path v, root.valueAt? path = some v → root.walk? (ofPath path) = some v)
    ∧ (∀ pointer v, pointer.toList.head? = some '/' →
        (root.walk? pointer = some v
          ↔ ∃ segments path, pointer = ofSegments segments ∧ (∀ s ∈ segments, '/' ∉ s)
            ∧ path.map Step.text
              = segments.map (fun s => contract '~' '0' '~' (contract '~' '1' '/' s))
            ∧ root.valueAt? path = some v))
    ∧ (∀ before segment after items, (∀ s ∈ before ++ segment :: after, '/' ∉ s) →
        root.walk? (ofSegments before) = some (.array items) →
        ¬ (Digits.IsNumeral (unescape segment)
          ∧ Digits.decimal (unescape segment) < items.length) →
        root.walk? (ofSegments (before ++ segment :: after)) = none)
    ∧ (∀ pointer, pointer ≠ "" → pointer.toList.head? ≠ some '/' →
        root.walk? pointer = root.walk? ("/" ++ pointer))
    ∧ root.walk? "" = some root := by
  refine ⟨fun path v => walk?_ofPath, fun pointer v hhead => ?_, fun before segment after items =>
    walk?_array, fun pointer hne hhead => walk?_slash hne hhead root, rfl⟩
  simp only [← unescape_eq_contract]
  constructor
  · intro hwalk
    obtain ⟨segments, rfl, hsegments⟩ := exists_segments hhead
    obtain ⟨path, hpath, hvalue⟩ := (walk?_ofSegments hsegments).mp hwalk
    exact ⟨segments, path, rfl, hsegments, hpath, hvalue⟩
  · rintro ⟨segments, path, rfl, hsegments, hpath, hvalue⟩
    exact (walk?_ofSegments hsegments).mpr ⟨path, hpath, hvalue⟩

/-- Fields with an empty name, with both characters that are escaped and with a name that looks
like a position. -/
def oddNames : Json :=
  .object [("", .array [.null, .object [("0", .bool true), ("~/1", .string "x")]])]

theorem walk?_places_oddNames :
    oddNames.valueAt? [.field "", .item 1, .field "~/1"] = some (.string "x")
      ∧ ofPath [.field "", .item 1, .field "~/1"] = "//1/~0~11"
      ∧ oddNames.walk? "//1/~0~11" = some (.string "x")
      ∧ oddNames.walk? "//01/0" = none
      ∧ oddNames.walk? "//1/0" = some (.bool true) := by
  have hpath : ofPath [.field "", .item 1, .field "~/1"] = "//1/~0~11" := by decide +kernel
  have hzero : ofSegments [[], ['0', '1'], ['0']] = "//01/0" := by decide +kernel
  have hother : ofPath [.field "", .item 1, .field "0"] = "//1/0" := by decide +kernel
  obtain ⟨hplaces, -, harray, -⟩ := walk?_places oddNames
  refine ⟨rfl, hpath, ?_, ?_, ?_⟩
  · rw [← hpath]
    exact hplaces _ _ rfl
  · rw [← hzero]
    exact harray [[]] ['0', '1'] [['0']] _ (by decide) rfl fun h => by
      obtain ⟨-, -, hlength | hhead⟩ := h.1
      · cases hlength
      · exact hhead rfl
  · rw [← hother]
    exact hplaces _ _ rfl

end Json

end Specimen
