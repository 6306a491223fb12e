import Specimen.Proofs.Sampler.Document

/-!
# References to other documents

A reference that is no pointer into the enclosing schema is read as a path first. Only if no
document stands there is it taken apart at a `#`, which then has to be its only one, and its end
is a pointer into the document that its front names. `Reference.ResolvesTo` says this without the
order in which it is tried, and it is all that ever resolves (`Reference.resolve_eq_ok_iff`).

The pointer of such a reference has been walked once when it is resolved. The sampler walks it
again in the same document, so the second walk never fails (`follow_fragment`).

Any number of `./` in front of a text leaves the paths that it names as they are, hence also
where a reference leads (`Reference.resolve_dotted`).
-/

namespace Specimen

namespace Reference

/-- A number of `./` in a row. -/
def dots : Nat → List Char
  | 0 => []
  | count + 1 => '.' :: '/' :: dots count

/-- A reference with a number of `./` put in front. -/
def dotted (count : Nat) (reference : String) : String := .ofList (dots count ++ reference.toList)

/-- The path that a text names from a directory, once there is no `./` left in front of it. -/
def Names (base : Path) (text : List Char) (p : Path) : Prop :=
  ∃ count rest, text = dots count ++ rest ∧ ¬ ['.', '/'] <+: rest ∧ p = base.join ⟨.ofList rest⟩

/-- Where a reference that starts with no `#` leads: to a whole document, or, where none stands,
into the document at the part before its only `#`. -/
inductive ResolvesTo (loader : Loader) (base : Path) (text : List Char) : Resolved → Prop
  | document {p : Path} {d : Json} (hname : Names base text p) (hhas : loader.has p = true)
      (hload : loader.load p = .ok d) : ResolvesTo loader base text (.document d)
  | fragment {file pointer : List Char} {p q : Path} {d target : Json}
      (hname : Names base text p) (hlacks : loader.has p = false)
      (hparts : text = file ++ '#' :: pointer) (hfile : '#' ∉ file) (hpointer : '#' ∉ pointer)
      (hfileName : Names base file q) (hhas : loader.has q = true) (hload : loader.load q = .ok d)
      (htarget : d.walk? (.ofList pointer) = some target) :
      ResolvesTo loader base text (.fragment d (.ofList pointer))

/-- The paths that are looked at: those that a whole text and its part before a `#` name. -/
def LooksAt (base : Path) (text : List Char) (p : Path) : Prop :=
  Names base text p ∨ ∃ file pointer, text = file ++ '#' :: pointer ∧ Names base file p

/-- Two references come to the same: both lead to the same place, cannot load the same document,
or are unresolvable for the same reason, each as it is written. -/
inductive SameOutcome (loader : Loader) (base : Path) (reference reference' : String) :
    Except SchemaError Resolved → Except SchemaError Resolved → Prop
  | found (r : Resolved) : SameOutcome loader base reference reference' (.ok r) (.ok r)
  | notLoaded {p : Path} {e : SchemaError} (hlooks : LooksAt base reference.toList p)
      (hhas : loader.has p = true) (hload : loader.load p = .error e) :
      SameOutcome loader base reference reference' (.error e) (.error e)
  | unresolvable (reason : ReferenceFailure) :
      SameOutcome loader base reference reference' (.error (.unresolvable reference reason))
        (.error (.unresolvable reference' reason))

variable {base : Path} {text rest : List Char} {p : Path}

/-! ## Paths -/

theorem dropDotSlash_dots (count : Nat) (text : List Char) :
    dropDotSlash (dots count ++ text) = dropDotSlash text := by
  induction count with
  | zero => rfl
  | succ count ih => exact ih

theorem dropDotSlash_of_bare (h : ¬ ['.', '/'] <+: text) : dropDotSlash text = text := by
  unfold dropDotSlash
  split
  · exact absurd (List.prefix_append ['.', '/'] _) h
  · rfl

theorem exists_dots (text : List Char) :
    ∃ count, text = dots count ++ dropDotSlash text ∧ ¬ ['.', '/'] <+: dropDotSlash text := by
  fun_induction dropDotSlash text with
  | case1 rest ih =>
      obtain ⟨count, htext, hbare⟩ := ih
      exact ⟨count + 1, congrArg (fun rest => '.' :: '/' :: rest) htext, hbare⟩
  | case2 text hbare =>
      refine ⟨0, rfl, fun hdots => ?_⟩
      obtain ⟨rest, hrest⟩ := hdots
      exact hbare rest hrest.symm

theorem names_iff : Names base text p ↔ p = pathFrom base text := by
  constructor
  · rintro ⟨count, rest, rfl, hbare, rfl⟩
    unfold pathFrom
    rw [dropDotSlash_dots, dropDotSlash_of_bare hbare]
  · rintro rfl
    obtain ⟨count, htext, hbare⟩ := exists_dots text
    exact ⟨count, _, htext, hbare, rfl⟩

theorem names_pathFrom (base : Path) (text : List Char) : Names base text (pathFrom base text) :=
  names_iff.mpr rfl

theorem pathFrom_dots (base : Path) (count : Nat) (text : List Char) :
    pathFrom base (dots count ++ text) = pathFrom base text := by
  unfold pathFrom
  rw [dropDotSlash_dots]

/-! ## Fragments -/

theorem splitFragment?_hash (rest : List Char) :
    splitFragment? ('#' :: rest) = if rest.contains '#' then none else some ([], rest) := rfl

theorem splitFragment?_cons {c : Char} (hc : c ≠ '#') (text : List Char) :
    splitFragment? (c :: text)
      = (splitFragment? text).map fun parts => (c :: parts.1, parts.2) := by
  have hspan : (c :: text).span (· != '#')
      = (c :: (text.span (· != '#')).1, (text.span (· != '#')).2) := by
    simp [List.span_eq_takeWhile_dropWhile, hc]
  unfold splitFragment?
  rw [hspan]
  rcases text.span (· != '#') with ⟨file, _ | ⟨hash, pointer⟩⟩
  · rfl
  · dsimp only
    split <;> rfl

/-- A text has parts just if it has one `#`. -/
theorem splitFragment?_eq_some_iff {file pointer : List Char} :
    splitFragment? text = some (file, pointer)
      ↔ text = file ++ '#' :: pointer ∧ '#' ∉ file ∧ '#' ∉ pointer := by
  induction text generalizing file with
  | nil => simp [splitFragment?]
  | cons c text ih =>
      by_cases hc : c = '#'
      · subst hc
        rw [splitFragment?_hash]
        cases file with
        | nil => by_cases hmem : '#' ∈ text <;> simp +contextual [hmem, eq_comm]
        | cons d file => by_cases hmem : '#' ∈ text <;> simp +contextual [hmem, eq_comm]
      · rw [splitFragment?_cons hc]
        cases file with
        | nil => simp [hc]
        | cons d file =>
            simp only [Option.map_eq_some_iff, Prod.exists, Prod.mk.injEq, List.cons_append,
              List.cons.injEq, List.mem_cons, not_or]
            constructor
            · rintro ⟨file', pointer', hparts, ⟨rfl, rfl⟩, rfl⟩
              obtain ⟨htext, hfile, hpointer⟩ := ih.mp hparts
              exact ⟨⟨rfl, htext⟩, ⟨Ne.symm hc, hfile⟩, hpointer⟩
            · rintro ⟨⟨rfl, htext⟩, ⟨-, hfile⟩, hpointer⟩
              exact ⟨file, pointer, ih.mpr ⟨htext, hfile, hpointer⟩, ⟨rfl, rfl⟩, rfl⟩

theorem splitFragment?_dots (count : Nat) (text : List Char) :
    splitFragment? (dots count ++ text)
      = (splitFragment? text).map fun parts => (dots count ++ parts.1, parts.2) := by
  induction count with
  | zero => simp [dots]
  | succ count ih =>
      show splitFragment? ('.' :: '/' :: (dots count ++ text)) = _
      rw [splitFragment?_cons (by decide), splitFragment?_cons (by decide), ih]
      cases splitFragment? text <;> rfl

/-! ## Resolving -/

variable {loader : Loader} {reference : String} {r : Resolved}

theorem resolveExternal_of_has (h : loader.has (pathFrom base reference.toList) = true) :
    resolveExternal reference base loader
      = (loader.load (pathFrom base reference.toList)).map .document :=
  if_pos h

theorem resolvesTo_of_resolveExternal (h : resolveExternal reference base loader = .ok r) :
    ResolvesTo loader base reference.toList r := by
  by_cases hwhole : loader.has (pathFrom base reference.toList) = true
  · rw [resolveExternal_of_has hwhole] at h
    cases hload : loader.load (pathFrom base reference.toList) with
    | error e =>
        rw [hload] at h
        cases h
    | ok d =>
        rw [hload] at h
        cases h
        exact .document (names_pathFrom ..) hwhole hload
  · unfold resolveExternal at h
    rw [if_neg hwhole] at h
    split at h
    · cases h
    · next file pointer hsplit =>
        obtain ⟨htext, hfile, hpointer⟩ := splitFragment?_eq_some_iff.mp hsplit
        dsimp only at h
        split at h
        · next hhas =>
            split at h
            · cases h
            · next d hload =>
                split at h
                · next hwalk =>
                    obtain ⟨target, htarget⟩ := Option.isSome_iff_exists.mp hwalk
                    cases h
                    exact .fragment (names_pathFrom ..) (Bool.eq_false_iff.mpr hwhole) htext hfile
                      hpointer (names_pathFrom ..) hhas hload htarget
                · cases h
        · cases h

theorem ResolvesTo.resolveExternal_eq (h : ResolvesTo loader base reference.toList r) :
    resolveExternal reference base loader = .ok r := by
  cases h with
  | document hname hhas hload =>
      obtain rfl := names_iff.mp hname
      rw [resolveExternal_of_has hhas, hload]
      rfl
  | fragment hname hlacks hparts hfile hpointer hfileName hhas hload htarget =>
      obtain rfl := names_iff.mp hname
      obtain rfl := names_iff.mp hfileName
      have hsplit := splitFragment?_eq_some_iff.mpr ⟨hparts, hfile, hpointer⟩
      unfold resolveExternal
      rw [if_neg (Bool.eq_false_iff.mp hlacks)]
      simp only [hsplit, hhas, hload, htarget, if_true, Option.isSome_some]

theorem resolve_eq_ok_iff (h : ∀ pointer, reference.toList ≠ '#' :: pointer)
    (parent : Option Json) :
    resolve reference parent base loader = .ok r ↔ ResolvesTo loader base reference.toList r := by
  rw [Sampler.resolve_external h]
  exact ⟨resolvesTo_of_resolveExternal, ResolvesTo.resolveExternal_eq⟩

theorem dotted_ne_pointer (h : ∀ pointer, reference.toList ≠ '#' :: pointer) (count : Nat) :
    ∀ pointer, (dotted count reference).toList ≠ '#' :: pointer := by
  intro pointer hpointer
  unfold dotted at hpointer
  rw [String.toList_ofList] at hpointer
  cases count with
  | zero => exact h pointer hpointer
  | succ count => cases hpointer

/-- A number of `./` changes no path that is looked at, and all else that is used of a reference
is its pointer and its text. -/
theorem resolveExternal_dotted (count : Nat) (reference : String) (base : Path) (loader : Loader) :
    SameOutcome loader base reference (dotted count reference)
      (resolveExternal reference base loader)
      (resolveExternal (dotted count reference) base loader) := by
  have htext : (dotted count reference).toList = dots count ++ reference.toList :=
    String.toList_ofList
  unfold resolveExternal
  rw [htext, pathFrom_dots, splitFragment?_dots]
  dsimp only
  split
  · next hhas =>
      cases hload : loader.load (pathFrom base reference.toList) with
      | error e => exact .notLoaded (.inl (names_pathFrom ..)) hhas hload
      | ok d => exact .found _
  · cases hsplit : splitFragment? reference.toList with
    | none => exact .unresolvable _
    | some parts =>
        obtain ⟨file, pointer⟩ := parts
        obtain ⟨hparts, -, -⟩ := splitFragment?_eq_some_iff.mp hsplit
        simp only [Option.map_some, pathFrom_dots]
        split
        · next hhas =>
            cases hload : loader.load (pathFrom base file) with
            | error e =>
                exact .notLoaded (.inr ⟨file, pointer, hparts, names_pathFrom ..⟩) hhas hload
            | ok d =>
                dsimp only
                split
                · exact .found _
                · exact .unresolvable _
        · exact .unresolvable _

theorem resolve_dotted (h : ∀ pointer, reference.toList ≠ '#' :: pointer) (count : Nat)
    (parent : Option Json) (base : Path) (loader : Loader) :
    SameOutcome loader base reference (dotted count reference)
      (resolve reference parent base loader)
      (resolve (dotted count reference) parent base loader) := by
  rw [Sampler.resolve_external h, Sampler.resolve_external (dotted_ne_pointer h count)]
  exact resolveExternal_dotted count reference base loader

theorem SameOutcome.failure {reference' : String} {x : Except SchemaError Resolved}
    {e : SchemaError} (h : SameOutcome loader base reference reference' (.error e) x) :
    (∃ p, LooksAt base reference.toList p ∧ loader.has p = true ∧ loader.load p = .error e)
      ∨ ∃ reason, e = .unresolvable reference reason := by
  cases h with
  | notLoaded hlooks hhas hload => exact .inl ⟨_, hlooks, hhas, hload⟩
  | unresolvable reason => exact .inr ⟨reason, rfl⟩

end Reference

/-! ## Following -/

namespace Sampler

open Reference

variable {σ : Type} {s : Sampler} {reference : String}

/-- Where a reference leads into a document, its pointer leads on from there. -/
theorem follow_fragment {parent : Option Json} {d : Json} {pointer : String}
    (h : ∀ pointer, reference.toList ≠ '#' :: pointer)
    (hresolve : resolve reference parent s.baseDir s.loader = .ok (.fragment d pointer)) :
    ∃ target, d.walk? pointer = some target
      ∧ ∀ (descend : Descent σ) (node : Node) (around : Option Json),
        s.follow descend reference node around = descend target (some d) := by
  obtain ⟨target, htarget⟩ : ∃ target, d.walk? pointer = some target := by
    cases (resolve_eq_ok_iff h parent).mp hresolve with
    | fragment _ _ _ _ _ _ _ _ htarget => exact ⟨_, htarget⟩
  have hsame : ∀ node around, resolve reference (s.pointerStart node around) s.baseDir s.loader
      = .ok (.fragment d pointer) := by
    intro node around
    rw [resolve_external h] at hresolve ⊢
    exact hresolve
  refine ⟨target, htarget, fun descend node around => ?_⟩
  rw [follow_eq, hsame]
  show enter descend reference around (.fragment d pointer) = _
  unfold enter
  simp only [htarget]

/-- A reference that starts with no `#` is the document at its path if one stands there, and
resolves to nothing but what it leads to. Where that is a part of a document the sampler finds
it again. It fails with what keeps a document from being loaded, or as it is written, and
`./` in front of it makes no other difference. -/
theorem reference_resolvesTo (s : Sampler) (parent : Option Json)
    (h : reference.toList.head? ≠ some '#') :
    (∀ p, Names s.baseDir reference.toList p → s.loader.has p = true →
        resolve reference parent s.baseDir s.loader = (s.loader.load p).map .document)
    ∧ (∀ r, resolve reference parent s.baseDir s.loader = .ok r
        ↔ ResolvesTo s.loader s.baseDir reference.toList r)
    ∧ (∀ d pointer, resolve reference parent s.baseDir s.loader = .ok (.fragment d pointer) →
        ∃ target, d.walk? pointer = some target
          ∧ ∀ (descend : Descent σ) (node : Node) (around : Option Json),
            s.follow descend reference node around = descend target (some d))
    ∧ (∀ e, resolve reference parent s.baseDir s.loader = .error e →
        (∃ p, LooksAt s.baseDir reference.toList p ∧ s.loader.has p = true
          ∧ s.loader.load p = .error e)
        ∨ ∃ reason, e = .unresolvable reference reason)
    ∧ ∀ count, SameOutcome s.loader s.baseDir reference (dotted count reference)
        (resolve reference parent s.baseDir s.loader)
        (resolve (dotted count reference) parent s.baseDir s.loader) := by
  have hexternal : ∀ pointer, reference.toList ≠ '#' :: pointer := by
    intro pointer hpointer
    exact h (by rw [hpointer]; rfl)
  have hdotted (count : Nat) := resolve_dotted hexternal count parent s.baseDir s.loader
  refine ⟨fun p hname hhas => ?_, fun r => resolve_eq_ok_iff hexternal parent, fun d pointer =>
    follow_fragment hexternal, fun e herror => ?_, hdotted⟩
  · obtain rfl := names_iff.mp hname
    rw [resolve_external hexternal, resolveExternal_of_has hhas]
  · have hsame := hdotted 0
    rw [herror] at hsame
    exact hsame.failure

def definitions : Json := .object [("a/b", .object [("type", .string "null")])]

/-- A document with definitions, and one whose name looks like a pointer into it. -/
def shelf : Loader :=
  (DocumentTable.empty.insert ⟨"base/defs.json"⟩ definitions
    |>.insert ⟨"base/defs.json#/a"⟩ (.object [("type", .string "string")])).toLoader

theorem reference_resolvesTo_shelf :
    "./defs.json#/a~1b".toList.head? ≠ some '#'
      ∧ "defs.json#/a".toList.head? ≠ some '#'
      ∧ resolve "defs.json#/a" none ⟨"base"⟩ shelf
        = .ok (.document (.object [("type", .string "string")]))
      ∧ ∃ target, resolve "./defs.json#/a~1b" none ⟨"base"⟩ shelf
          = .ok (.fragment definitions "/a~1b")
        ∧ definitions.walk? "/a~1b" = some target
        ∧ ∀ (descend : Descent Scripted) (node : Node) (around : Option Json),
          (⟨{}, ⟨"base"⟩, shelf⟩ : Sampler).follow descend "./defs.json#/a~1b" node around
            = descend target (some definitions) := by
  have hpart : "./defs.json#/a~1b".toList.head? ≠ some '#' := by decide
  have hwhole : "defs.json#/a".toList.head? ≠ some '#' := by decide
  obtain ⟨hdocument, -⟩ :=
    reference_resolvesTo (σ := Scripted) ⟨{}, ⟨"base"⟩, shelf⟩ none hwhole
  obtain ⟨-, hresolves, hfollow, -⟩ :=
    reference_resolvesTo (σ := Scripted) ⟨{}, ⟨"base"⟩, shelf⟩ none hpart
  refine ⟨hpart, hwhole, ?_, ?_⟩
  · refine hdocument ⟨"base/defs.json#/a"⟩ ⟨0, _, rfl, by decide, by decide +kernel⟩ ?_
    decide +kernel
  · have hfile : Names ⟨"base"⟩ ['.', '/', 'd', 'e', 'f', 's', '.', 'j', 's', 'o', 'n']
        ⟨"base/defs.json"⟩ := ⟨1, "defs.json".toList, by decide, by decide, by decide +kernel⟩
    have hname : Names ⟨"base"⟩ "./defs.json#/a~1b".toList ⟨"base/defs.json#/a~1b"⟩ :=
      ⟨1, "defs.json#/a~1b".toList, by decide, by decide, by decide +kernel⟩
    have hresolve := (hresolves (.fragment definitions "/a~1b")).mpr
      (.fragment hname (by decide +kernel) (by decide) (by decide) (by decide) hfile
        (by decide +kernel) rfl rfl)
    obtain ⟨target, htarget, hdescend⟩ := hfollow _ _ hresolve
    exact ⟨target, hresolve, htarget, hdescend⟩

end Sampler

end Specimen
