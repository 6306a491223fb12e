import Mathlib.Data.List.Forall2
import Specimen.Pattern.Meaning

/-!
# Patterns with ASCII shorthands

`Regex.ascii` is a written pattern in which every digit and word shorthand stands for
the set of ASCII characters in brackets, in the place of the shorthand. It is the
reading that strings are drawn for, said of the pattern and not of its text.

One written pattern *reads as* another when the other has a meaning only if it is
that of the first with ASCII shorthands (`CharSet.Reads`, `Regex.Reads`). This is
kept by every way of putting patterns together. The one difference that it covers
beyond shorthands is a property with a shorthand in its name: written out, the name
holds a bracket, and there is no such property (`propertyOf_not_found`).
-/

namespace Specimen

/-- A computation that ends with a value has passed through a value of its first
part. -/
theorem ok_of_bind {ε α β : Type} {x : Except ε α} {f : α → Except ε β} {b : β}
    (h : (x >>= f) = .ok b) : ∃ a, x = .ok a ∧ f a = .ok b := by
  cases x with
  | error e => cases h
  | ok a => exact ⟨a, rfl, h⟩

namespace Pattern

/-! ## ASCII shorthands -/

/-- What is in brackets where a shorthand is written out for ASCII; blanks are not
written out. -/
def LetterSet.ascii? : LetterSet → Option CharSet
  | .digit => some (.range ⟨'0', false⟩ ⟨'9', false⟩)
  | .space => none
  | .word => some (.union [.range ⟨'0', false⟩ ⟨'9', false⟩, .range ⟨'A', false⟩ ⟨'Z', false⟩,
      .range ⟨'a', false⟩ ⟨'z', false⟩, .literal ⟨'_', false⟩])

mutual

/-- The set with shorthands written out for ASCII. -/
def CharSet.ascii : CharSet → CharSet
  | .letter negated set =>
    match set.ascii? with
    | some inner => .bracketed negated inner
    | none => .letter negated set
  | .bracketed negated inner => .bracketed negated inner.ascii
  | .union items => .union (CharSet.asciiAll items)
  | .operation op left right => .operation op left.ascii right.ascii
  | s => s

def CharSet.asciiAll : List CharSet → List CharSet
  | [] => []
  | item :: rest => item.ascii :: CharSet.asciiAll rest

end

mutual

/-- The pattern with shorthands written out for ASCII. -/
def Regex.ascii : Regex → Regex
  | .set s => .set s.ascii
  | .repetition min max greedy body => .repetition min max greedy body.ascii
  | .group kind body => .group kind body.ascii
  | .concat parts => .concat (Regex.asciiAll parts)
  | .alternatives branches => .alternatives (Regex.asciiAll branches)
  | r => r

def Regex.asciiAll : List Regex → List Regex
  | [] => []
  | part :: rest => part.ascii :: Regex.asciiAll rest

end

/-! ## Sets -/

/-- A set as it is written, and as it is drawn from. -/
def CharSet.Reads (s t : CharSet) : Prop :=
  ∀ m cls, t.toClass m = .ok cls → s.ascii.toClass m = .ok cls

namespace CharSet.Reads

variable {s t : CharSet} {items items' : List CharSet}

theorem of_ascii (h : s.ascii = t) : s.Reads t := fun _ _ ht => h.symm ▸ ht

/-- A shorthand reads as the set that it stands for. -/
theorem letter {negated : Bool} {set : LetterSet} {inner : CharSet}
    (h : set.ascii? = some inner) :
    (CharSet.letter negated set).Reads (.bracketed negated inner) := by
  refine of_ascii ?_
  unfold CharSet.ascii
  rw [h]

theorem bracketed (h : s.Reads t) (negated : Bool) :
    (CharSet.bracketed negated s).Reads (.bracketed negated t) := by
  intro m cls hcls
  unfold CharSet.toClass at hcls
  obtain ⟨inner, hinner, hcls⟩ := ok_of_bind hcls
  unfold CharSet.ascii CharSet.toClass
  rw [h m inner hinner]
  exact hcls

theorem unionOf (h : List.Forall₂ CharSet.Reads items items') {m : Modes} :
    ∀ {cls}, CharSet.unionOf m items' = .ok cls →
      CharSet.unionOf m (CharSet.asciiAll items) = .ok cls := by
  induction h with
  | nil => exact fun h => h
  | cons hitem _ ih =>
      intro cls hcls
      unfold CharSet.unionOf at hcls
      obtain ⟨a, ha, hcls⟩ := ok_of_bind hcls
      obtain ⟨b, hb, hcls⟩ := ok_of_bind hcls
      unfold CharSet.asciiAll CharSet.unionOf
      rw [hitem m a ha, ih hb]
      exact hcls

theorem union (h : List.Forall₂ CharSet.Reads items items') :
    (CharSet.union items).Reads (.union items') := by
  intro m cls hcls
  unfold CharSet.toClass at hcls
  unfold CharSet.ascii CharSet.toClass
  exact unionOf h hcls

theorem operation {left left' : CharSet} (hleft : left.Reads left') (h : s.Reads t)
    (op : SetOperator) : (CharSet.operation op left s).Reads (.operation op left' t) := by
  intro m cls hcls
  unfold CharSet.toClass at hcls
  obtain ⟨a, ha, hcls⟩ := ok_of_bind hcls
  obtain ⟨b, hb, hcls⟩ := ok_of_bind hcls
  unfold CharSet.ascii CharSet.toClass
  rw [hleft m a ha, h m b hb]
  exact hcls

theorem ofItems (h : List.Forall₂ CharSet.Reads items items') :
    (CharSet.ofItems items).Reads (CharSet.ofItems items') := by
  unfold CharSet.ofItems
  cases h with
  | nil => exact union .nil
  | cons hitem hrest =>
      cases hrest with
      | nil => exact hitem
      | cons hsecond hrest => exact union (.cons hitem (.cons hsecond hrest))

end CharSet.Reads

/-! ## Patterns -/

theorem Regex.meanings_cons_eq_ok {m m' : Modes} {r : Regex} {rest : List Regex}
    {es : List Expr} : Regex.meanings m (r :: rest) = .ok (es, m')
      ↔ ∃ e between es', r.meaning m = .ok (e, between)
        ∧ Regex.meanings between rest = .ok (es', m') ∧ es = e :: es' := by
  constructor
  · intro h
    unfold Regex.meanings at h
    obtain ⟨⟨e, between⟩, he, h⟩ := ok_of_bind h
    obtain ⟨⟨es', _⟩, hes, h⟩ := ok_of_bind h
    cases h
    exact ⟨e, between, es', he, hes, rfl⟩
  · rintro ⟨e, between, es', he, hes, rfl⟩
    rw [Regex.meanings, he]
    show (Regex.meanings between rest >>= _) = _
    rw [hes]
    rfl

theorem Regex.meaning_concat_eq_ok {m m' : Modes} {parts : List Regex} {e : Expr} :
    (Regex.concat parts).meaning m = .ok (e, m')
      ↔ ∃ es, Regex.meanings m parts = .ok (es, m') ∧ e = .ofParts es := by
  constructor
  · intro h
    unfold Regex.meaning at h
    obtain ⟨⟨es, _⟩, hes, h⟩ := ok_of_bind h
    cases h
    exact ⟨es, hes, rfl⟩
  · rintro ⟨es, hes, rfl⟩
    rw [Regex.meaning, hes]
    rfl

theorem Regex.meaning_alternatives_eq_ok {m m' : Modes} {branches : List Regex} {e : Expr} :
    (Regex.alternatives branches).meaning m = .ok (e, m')
      ↔ ∃ es, Regex.meanings m branches = .ok (es, m') ∧ e = .ofBranches es := by
  constructor
  · intro h
    unfold Regex.meaning at h
    obtain ⟨⟨es, _⟩, hes, h⟩ := ok_of_bind h
    cases h
    exact ⟨es, hes, rfl⟩
  · rintro ⟨es, hes, rfl⟩
    rw [Regex.meaning, hes]
    rfl

/-- A pattern as it is written, and as it is drawn from. -/
def Regex.Reads (r s : Regex) : Prop :=
  ∀ m x, s.meaning m = .ok x → r.ascii.meaning m = .ok x

namespace Regex.Reads

variable {r s : Regex} {parts parts' : List Regex}

theorem of_ascii (h : r.ascii = s) : r.Reads s := fun _ _ hs => h.symm ▸ hs

theorem set {a b : CharSet} (h : a.Reads b) : (Regex.set a).Reads (.set b) := by
  intro m x hx
  unfold Regex.meaning at hx
  obtain ⟨cls, hcls, hx⟩ := ok_of_bind hx
  unfold Regex.ascii Regex.meaning
  rw [h m cls hcls]
  exact hx

theorem repetition (h : r.Reads s) (min : Nat) (max : Option Nat) (greedy : Bool) :
    (Regex.repetition min max greedy r).Reads (.repetition min max greedy s) := by
  intro m x hx
  unfold Regex.meaning at hx
  obtain ⟨body, hbody, hx⟩ := ok_of_bind hx
  unfold Regex.ascii Regex.meaning
  rw [h m body hbody]
  exact hx

theorem group (h : r.Reads s) (kind : GroupKind) : (Regex.group kind r).Reads (.group kind s) := by
  intro m x hx
  cases kind with
  | capturing =>
      unfold Regex.meaning at hx
      obtain ⟨body, hbody, hx⟩ := ok_of_bind hx
      unfold Regex.ascii Regex.meaning
      rw [h m body hbody]
      exact hx
  | directive d =>
      unfold Regex.meaning at hx
      obtain ⟨body, hbody, hx⟩ := ok_of_bind hx
      unfold Regex.ascii Regex.meaning
      rw [h _ body hbody]
      exact hx

theorem meanings (h : List.Forall₂ Regex.Reads parts parts') :
    ∀ {m x}, Regex.meanings m parts' = .ok x →
      Regex.meanings m (Regex.asciiAll parts) = .ok x := by
  induction h with
  | nil => exact fun h => h
  | cons hpart _ ih =>
      rintro m ⟨_, _⟩ hx
      obtain ⟨e, between, es, he, hes, rfl⟩ := meanings_cons_eq_ok.mp hx
      unfold Regex.asciiAll
      exact meanings_cons_eq_ok.mpr ⟨e, between, es, hpart m _ he, ih hes, rfl⟩

theorem concat (h : List.Forall₂ Regex.Reads parts parts') :
    (Regex.concat parts).Reads (.concat parts') := by
  rintro m ⟨_, _⟩ hx
  obtain ⟨es, hes, rfl⟩ := meaning_concat_eq_ok.mp hx
  unfold Regex.ascii
  exact meaning_concat_eq_ok.mpr ⟨es, meanings h hes, rfl⟩

theorem alternatives (h : List.Forall₂ Regex.Reads parts parts') :
    (Regex.alternatives parts).Reads (.alternatives parts') := by
  rintro m ⟨_, _⟩ hx
  obtain ⟨es, hes, rfl⟩ := meaning_alternatives_eq_ok.mp hx
  unfold Regex.ascii
  exact meaning_alternatives_eq_ok.mpr ⟨es, meanings h hes, rfl⟩

theorem ofParts (h : List.Forall₂ Regex.Reads parts parts') :
    (Regex.ofParts parts).Reads (Regex.ofParts parts') := by
  unfold Regex.ofParts
  cases h with
  | nil => exact of_ascii rfl
  | cons hpart hrest =>
      cases hrest with
      | nil => exact hpart
      | cons hsecond hrest => exact concat (.cons hpart (.cons hsecond hrest))

end Regex.Reads

/-! ## Names with a bracket -/

theorem mem_toList_plainName {name : List Char} (h : '[' ∈ name) :
    '[' ∈ (Unicode.plainName name).toList := by
  have hplain {cs : List Char} (hcs : '[' ∈ cs) :
      '[' ∈ (cs.filter fun c => c ≠ ' ' ∧ c ≠ '_' ∧ c ≠ '-' ∧ c.toNat < 0x80).map Char.toLower :=
    List.mem_map.mpr ⟨'[', List.mem_filter.mpr ⟨hcs, by decide⟩, by decide⟩
  unfold Unicode.plainName
  dsimp only
  split
  · next hlower =>
      have hdrop : '[' ∈ name.drop 2 := by
        rcases List.mem_append.mp ((List.take_append_drop 2 name).symm ▸ h) with htake | hdrop
        · have hmem := List.mem_map_of_mem (f := Char.toLower) htake
          rw [hlower] at hmem
          exact absurd hmem (by decide)
        · exact hdrop
      have hrest := hplain hdrop
      split
      · next hc =>
          rw [hc] at hrest
          exact absurd hrest (by decide)
      · rw [String.toList_ofList]
        exact hrest
  · rw [String.toList_ofList]
    exact hplain h

theorem binary?_eq_none {name : String} (h : '[' ∈ name.toList) : Unicode.binary? name = none := by
  unfold Unicode.binary?
  split
  all_goals first
    | rfl
    | exact absurd h (by decide +kernel)

theorem category?_eq_none {name : String} (h : '[' ∈ name.toList) :
    Unicode.category? name = none := by
  have hne {other : String} (hother : '[' ∉ other.toList) : name ≠ other := fun heq =>
    hother (heq ▸ h)
  have hnames : ∀ entry ∈ Unicode.categories,
      '[' ∉ entry.1.toList ∧ '[' ∉ entry.2.1.toList := by decide +kernel
  unfold Unicode.category?
  rw [if_neg (hne (by decide +kernel)), if_neg (hne (by decide +kernel)),
    if_neg (hne (by decide +kernel)),
    if_neg (not_or.mpr ⟨hne (by decide +kernel), hne (by decide +kernel)⟩),
    if_neg (not_or.mpr ⟨hne (by decide +kernel), hne (by decide +kernel)⟩)]
  split
  · exact absurd h (by decide +kernel)
  · exact absurd h (by decide +kernel)
  · exact absurd h (by decide +kernel)
  · exact absurd h (by decide +kernel)
  · refine Option.map_eq_none_iff.mpr (List.find?_eq_none.mpr fun entry hentry => ?_)
    obtain ⟨hshort, hlong⟩ := hnames entry hentry
    rw [decide_eq_true_eq, not_or]
    exact ⟨(hne hshort).symm, (hne hlong).symm⟩

theorem script?_eq_none {name : String} (h : '[' ∈ name.toList) : Unicode.script? name = none := by
  have hnames : ∀ entry ∈ Unicode.scripts, ∀ other ∈ entry.1, '[' ∉ other.toList := by
    decide +kernel
  refine Option.map_eq_none_iff.mpr (List.find?_eq_none.mpr fun entry hentry => ?_)
  rw [List.contains_iff_mem]
  exact fun hmem => hnames entry hentry name hmem h

theorem property?_eq_none {name : String} (h : '[' ∈ name.toList) :
    Unicode.property? name = none := by
  unfold Unicode.property?
  rw [binary?_eq_none h, category?_eq_none h, script?_eq_none h]
  rfl

/-- There is no property with a bracket in its name or in its value. -/
theorem PropertyName.toClass_not_found {name : PropertyName}
    (h : match name with
      | .plain name => '[' ∈ name
      | .valued name value => '[' ∈ name ∨ '[' ∈ value) (cls : CharClass) :
    name.toClass ≠ .ok cls := by
  cases name with
  | plain name =>
      unfold PropertyName.toClass
      dsimp only
      rw [property?_eq_none (mem_toList_plainName h)]
      exact nofun
  | valued name value =>
      have hname {other : String} (heq : Unicode.plainName name = other)
          (hother : '[' ∉ other.toList) : '[' ∈ value := by
        refine h.resolve_left fun hmem => hother ?_
        rw [← heq]
        exact mem_toList_plainName hmem
      unfold PropertyName.toClass
      dsimp only
      split
      · next hcategory =>
          have hvalue : '[' ∈ value := by
            rcases hcategory with heq | heq
            · exact hname heq (by decide +kernel)
            · exact hname heq (by decide +kernel)
          rw [category?_eq_none (mem_toList_plainName hvalue)]
          exact nofun
      · split
        · next hscript =>
            have hvalue : '[' ∈ value := by
              rcases hscript with heq | heq
              · exact hname heq (by decide +kernel)
              · exact hname heq (by decide +kernel)
            rw [script?_eq_none (mem_toList_plainName hvalue)]
            exact nofun
        · split <;> exact nofun

theorem eq_of_cutAt {separator : List Char} : ∀ {text before after : List Char},
    cutAt separator text = some (before, after) → text = before ++ separator ++ after
  | [], _, _, h => by cases h
  | c :: rest, before, after, h => by
      unfold cutAt at h
      split at h
      · next hfront =>
          obtain ⟨tail, htail⟩ := List.isPrefixOf_iff_prefix.mp hfront
          obtain ⟨rfl, rfl⟩ := Prod.mk.inj (Option.some.inj h)
          rw [← htail, List.drop_left, List.nil_append]
      · obtain ⟨⟨before', after'⟩, hcut, heq⟩ := Option.map_eq_some_iff.mp h
        obtain ⟨rfl, rfl⟩ := Prod.mk.inj heq
        rw [eq_of_cutAt hcut]
        rfl

/-- A property whose text holds a bracket is not found. -/
theorem propertyOf_not_found {text : List Char} (h : '[' ∈ text) (cls : CharClass) :
    (propertyOf text).2.toClass ≠ .ok cls := by
  have hcut {separator before after : List Char} (hseparator : '[' ∉ separator)
      (heq : cutAt separator text = some (before, after)) : '[' ∈ before ∨ '[' ∈ after := by
    rw [eq_of_cutAt heq, List.mem_append, List.mem_append] at h
    exact h.imp_left fun h => h.resolve_right hseparator
  unfold propertyOf
  split
  · next heq => exact PropertyName.toClass_not_found (hcut (by decide) heq) cls
  · split
    · next heq => exact PropertyName.toClass_not_found (hcut (by decide) heq) cls
    · split
      · next heq => exact PropertyName.toClass_not_found (hcut (by decide) heq) cls
      · exact PropertyName.toClass_not_found h cls

/-- Whatever was written reads as a property that is not found. -/
theorem CharSet.Reads.of_not_found {s : CharSet} {negated : Bool} {name : PropertyName}
    (h : ∀ cls, name.toClass ≠ .ok cls) : s.Reads (.property negated name) := by
  intro m cls hcls
  unfold CharSet.toClass at hcls
  split at hcls
  · obtain ⟨inner, hinner, -⟩ := ok_of_bind hcls
    exact absurd hinner (h inner)
  · cases hcls

end Pattern

end Specimen
