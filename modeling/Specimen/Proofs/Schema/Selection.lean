import Mathlib.Data.List.Range
import Std.Data.String.ToNat
import Specimen.Proofs.Pattern.Drawing
import Specimen.Proofs.Random.Text
import Specimen.Proofs.Schema.Dependencies
import Specimen.Random.Scripted

/-!
# Which names a sample gets

A selection is put together in four steps, and what it comes to says the same in
four parts (`IsSelection`): the required names, some of the optional ones, what
these bring along, and made-up names. Every step only ever appends names that
are not there yet, so no name comes twice and no step disturbs an earlier one.

Names are made up only while there are fewer than the least number, one at a
time, hence they end exactly there. The suffix that makes one fresh is found
because there are more candidates than names (`suffixed_eq`).

The closure under dependencies is taken before names are made up, so it holds of
the names before these and not of all of them.
-/

namespace Specimen.PropertyNames

open Draw

/-! ## Fresh suffixes -/

theorem suffix_injective (base : String) :
    Function.Injective fun n : Nat => base ++ "_" ++ toString n := by
  intro m n h
  exact Nat.repr_injective ((String.append_right_inj _).mp h)

/-- More suffixes than names cannot all be taken. -/
theorem exists_suffix_free (names : List String) (base : String) (n : Nat) :
    ∃ k < names.length + 1, base ++ "_" ++ toString (n + k) ∉ names := by
  by_contra hall
  have hnd : ((List.range' n (names.length + 1)).map
      fun m : Nat => base ++ "_" ++ toString m).Nodup :=
    (List.nodup_range' ..).map (suffix_injective base)
  have hsub : ((List.range' n (names.length + 1)).map
      fun m : Nat => base ++ "_" ++ toString m) ⊆ names := by
    intro name hname
    obtain ⟨m, hm, rfl⟩ := List.mem_map.mp hname
    rw [List.mem_range'_1] at hm
    by_contra hfree
    refine hall ⟨m - n, by omega, ?_⟩
    rwa [Nat.add_sub_cancel' hm.1]
  have hle := (hnd.subperm hsub).length_le
  rw [List.length_map, List.length_range'] at hle
  omega

theorem freshSuffix_eq {names : List String} {base : String} :
    ∀ (tries n : Nat), (∃ k < tries, base ++ "_" ++ toString (n + k) ∉ names) →
      ∃ m ≥ n, freshSuffix names base n tries = base ++ "_" ++ toString m
        ∧ base ++ "_" ++ toString m ∉ names
        ∧ ∀ k, n ≤ k → k < m → base ++ "_" ++ toString k ∈ names
  | 0, n, h => by
      obtain ⟨k, hk, -⟩ := h
      omega
  | tries + 1, n, h => by
      unfold freshSuffix
      by_cases htaken : base ++ "_" ++ toString n ∈ names
      · have hlater : ∃ k < tries, base ++ "_" ++ toString (n + 1 + k) ∉ names := by
          obtain ⟨k, hk, hfree⟩ := h
          cases k with
          | zero => exact absurd htaken hfree
          | succ k => exact ⟨k, by omega, by rwa [Nat.add_right_comm, Nat.add_assoc]⟩
        obtain ⟨m, hm, heq, hfree, hbefore⟩ := freshSuffix_eq tries (n + 1) hlater
        refine ⟨m, by omega, ?_, hfree, fun k hk hlt => ?_⟩
        · rw [← heq]
          exact if_pos htaken
        · rcases Nat.eq_or_lt_of_le hk with rfl | hk
          · exact htaken
          · exact hbefore k hk hlt
      · exact ⟨n, Nat.le_refl n, if_neg htaken, htaken, fun k hk hlt => by omega⟩

/-- The suffix is the first from the number of names on that is not taken. -/
theorem suffixed_eq (names : List String) (base : String) :
    ∃ n ≥ names.length, suffixed names base = base ++ "_" ++ toString n
      ∧ base ++ "_" ++ toString n ∉ names
      ∧ ∀ k, names.length ≤ k → k < n → base ++ "_" ++ toString k ∈ names :=
  freshSuffix_eq _ _ (exists_suffix_free names base names.length)

theorem suffixed_not_mem (names : List String) (base : String) :
    suffixed names base ∉ names := by
  obtain ⟨n, -, heq, hfree, -⟩ := suffixed_eq names base
  exact heq ▸ hfree

/-! ## Made-up names -/

/-- The names that can be made up for a node. Those of an open object are lorem
words, with a suffix if need be, and those of a closed one are drawn from the
patterns it has schemas for. -/
inductive IsMadeUp (node : Node) : String → Prop
  | word {word : String} (hopen : isOpen node = true) (hword : word ∈ loremWords) :
      IsMadeUp node word
  | suffixed {word : String} (n : Nat) (hopen : isOpen node = true) (hword : word ∈ loremWords) :
      IsMadeUp node (word ++ "_" ++ toString n)
  | drawn {name : String} {patterns : List Pattern} {p : Pattern} (hclosed : isOpen node = false)
      (hpatterns : namePatterns node = .ok patterns) (hp : p ∈ patterns) (hname : p.CanDraw name) :
      IsMadeUp node name

/-- Names followed by made-up ones, which bring their number up to the least if
there are any. -/
structure IsFilling (node : Node) (names filled : List String) : Prop where
  made : ∃ made, filled = names ++ made ∧ (∀ name ∈ made, IsMadeUp node name)
    ∧ (made ≠ [] → filled.length = (node.count? "minProperties").getD 0)
  nodup : filled.Nodup
  least_le : (node.count? "minProperties").getD 0 ≤ filled.length

theorem IsFilling.of_enough {node : Node} {names : List String} (hnd : names.Nodup)
    (h : (node.count? "minProperties").getD 0 ≤ names.length) : IsFilling node names names where
  made := ⟨[], by simp, by simp, by simp⟩
  nodup := hnd
  least_le := h

theorem IsFilling.of_append {node : Node} {names filled : List String} {name : String}
    (h : IsFilling node (names ++ [name]) filled) (hname : IsMadeUp node name)
    (hlt : names.length < (node.count? "minProperties").getD 0) : IsFilling node names filled := by
  obtain ⟨⟨made, hfilled, hmade, hlength⟩, hnd, hle⟩ := h
  refine ⟨⟨name :: made, by simp [hfilled], ?_, fun _ => ?_⟩, hnd, hle⟩
  · intro other hother
    rcases List.mem_cons.mp hother with rfl | hother
    · exact hname
    · exact hmade other hother
  · by_cases hnil : made = []
    · subst hnil
      simp only [List.append_nil] at hfilled
      simp only [hfilled, List.length_append, List.length_singleton] at hle ⊢
      omega
    · exact hlength hnil

theorem nodup_append_singleton {names : List String} {name : String} (hnd : names.Nodup)
    (h : name ∉ names) : (names ++ [name]).Nodup := by
  refine hnd.append (List.nodup_singleton name) fun other hother hin => ?_
  exact h (List.mem_singleton.mp hin ▸ hother)

variable {σ : Type} [Source σ] {E : SchemaError → Prop}

/-- Filling up an open object cannot fail. -/
theorem fillOpen_ensures {node : Node} (hopen : isOpen node = true) :
    ∀ (missing : Nat) (names : List String), names.Nodup →
      names.length + missing = (node.count? "minProperties").getD 0 →
      Ensures (fillOpen names missing : Draw σ SchemaError (List String))
        (IsFilling node names) E
  | 0, names, hnd, hsum => ensures_pure (.of_enough hnd (by omega))
  | missing + 1, names, hnd, hsum => by
      refine word_ensures.bind fun word hword => ?_
      have hnew : IsMadeUp node (if word ∈ names then suffixed names word else word)
          ∧ (if word ∈ names then suffixed names word else word) ∉ names := by
        split
        · obtain ⟨n, -, heq, -⟩ := suffixed_eq names word
          exact ⟨heq ▸ .suffixed n hopen hword, suffixed_not_mem names word⟩
        · next hfree => exact ⟨.word hopen hword, hfree⟩
      refine (fillOpen_ensures hopen missing _ (nodup_append_singleton hnd hnew.2) ?_).imp_value
        fun filled h => h.of_append hnew.1 (by omega)
      rw [List.length_append, List.length_singleton]
      omega

/-- Each round either adds a name or uses up an attempt, so the rounds are never
what ends the filling. -/
theorem fillClosed_ensures {node : Node} (hclosed : isOpen node = false) {patterns : List Pattern}
    (hpatterns : namePatterns node = .ok patterns) (hne : patterns ≠ []) {least : Nat}
    (hleast : (node.count? "minProperties").getD 0 = least) :
    ∀ (rounds attempts : Nat) (names : List String), names.Nodup → attempts < attemptLimit →
      (least - names.length) + (attemptLimit - attempts) ≤ rounds →
      Ensures (fillClosed patterns least attempts names rounds : Draw σ SchemaError (List String))
        (IsFilling node names) fun _ => True
  | 0, attempts, names, _, hattempts, hrounds => by omega
  | rounds + 1, attempts, names, hnd, hattempts, hrounds => by
      unfold fillClosed
      split
      · next henough => exact ensures_pure (.of_enough hnd (hleast ▸ henough))
      · next hlt =>
          refine (element_ensures patterns).bind fun p? hp? => ?_
          rcases hp? with ⟨hnil, -⟩ | ⟨p, hp, rfl⟩
          · exact absurd hnil hne
          refine (Pattern.draw_ensures p).bind fun candidate hcandidate => ?_
          have hmade : IsMadeUp node candidate := .drawn hclosed hpatterns hp hcandidate
          by_cases htaken : candidate ∈ names
          · simp only [if_pos htaken]
            split
            · next hmore =>
                exact fillClosed_ensures hclosed hpatterns hne hleast rounds (attempts + 1) names
                  hnd hmore (by omega)
            · exact ensures_fail trivial
          · simp only [if_neg htaken]
            refine (fillClosed_ensures hclosed hpatterns hne hleast rounds attempts _
              (nodup_append_singleton hnd htaken) hattempts ?_).imp_value
              fun filled h => h.of_append hmade (by omega)
            rw [List.length_append, List.length_singleton]
            omega

/-- The failures of filling up: only a closed object has any, and without patterns
they are all for want of names. -/
structure FailsToFill (node : Node) (e : SchemaError) : Prop where
  closed : isOpen node = false
  category : namePatterns node = .ok [] → e.category = .malformedSchema

theorem fill_ensures (node : Node) {names : List String} (hnd : names.Nodup) :
    Ensures (fill node names : Draw σ SchemaError (List String)) (IsFilling node names)
      (FailsToFill node) := by
  unfold fill
  dsimp only
  split
  · next h => exact ensures_pure (.of_enough hnd (by omega))
  · next h =>
      by_cases hopen : isOpen node = true
      · rw [if_pos hopen]
        exact fillOpen_ensures hopen _ names hnd (by omega)
      · have hclosed : isOpen node = false := by simpa using hopen
        rw [if_neg hopen]
        refine Ensures.bind (Q := fun patterns => namePatterns node = .ok patterns)
          (ensures_ofExcept (fun _ heq => heq) fun e heq => ⟨hclosed, fun hok => ?_⟩)
          fun patterns hpatterns => ?_
        · rw [heq] at hok
          cases hok
        · split
          · exact ensures_fail ⟨hclosed, fun _ => rfl⟩
          · next hne =>
              have hnil : patterns ≠ [] := by simpa using hne
              refine (fillClosed_ensures hclosed hpatterns hnil rfl _ 0 names hnd (by decide)
                (by omega)).imp (fun _ h => h) fun _ _ => ⟨hclosed, fun hok => ?_⟩
              exact absurd (Except.ok.inj (hpatterns.symm.trans hok)) hnil

/-! ## Chosen names -/

theorem mem_optional {node : Node} {name : String} (h : name ∈ optional node) :
    name ∉ required node := by
  have hfree := (List.mem_filter.mp h).2
  simpa using hfree

/-- Optional names in their order, as many at most as there is room for. -/
structure IsChoice (node : Node) (chosen : List String) : Prop where
  sublist : chosen.Sublist (optional node)
  nodup : chosen.Nodup
  length_le : chosen.length ≤ (optionalCounts node).2

/-- What is there before dependencies are looked at. -/
def given (node : Node) (chosen : List String) : List String :=
  (required node).eraseDups ++ chosen

theorem IsChoice.nodup_given {node : Node} {chosen : List String} (h : IsChoice node chosen) :
    (given node chosen).Nodup := by
  refine (nodup_eraseDups _).append h.nodup fun name hrequired hchosen => ?_
  exact mem_optional (h.sublist.subset hchosen) (List.mem_eraseDups.mp hrequired)

theorem addAll_required {node : Node} {picked : List String}
    (h : picked.Sublist (optional node)) :
    addAll [] (required node ++ picked) = given node picked.eraseDups := by
  have hall : (required node ++ picked).filter (· ∉ ([] : List String)) = required node ++ picked :=
    List.filter_eq_self.mpr fun _ _ => by simp
  have hnew : picked.removeAll (required node) = picked :=
    List.filter_eq_self.mpr fun name hname => by simpa using mem_optional (h.subset hname)
  rw [addAll_eq, hall, List.eraseDups_append, hnew, List.nil_append, given]

/-- A selection fills up the closure of the required and the chosen names. -/
theorem select_fills (node : Node) :
    Ensures (select node : Draw σ SchemaError (List String))
      (fun names => ∃ chosen, IsChoice node chosen
        ∧ IsFilling node (close node (given node chosen)) names)
      (FailsToFill node) := by
  refine (countBetween_ensures _ _).bind fun count hcount => ?_
  refine (elements_ensures _ _).bind fun picked ⟨hsublist, hlength⟩ => ?_
  have hchoice : IsChoice node picked.eraseDups := by
    refine ⟨(eraseDups_sublist picked).trans hsublist, nodup_eraseDups picked, ?_⟩
    have hle := (eraseDups_sublist picked).length_le
    have hcounts : (optionalCounts node).1 ≤ (optionalCounts node).2 := Nat.min_le_right ..
    have hgreatest : count ≤ (optionalCounts node).2 :=
      hcount.2.trans (Nat.max_le.mpr ⟨hcounts, Nat.le_refl _⟩)
    omega
  rw [addAll_required hsublist]
  obtain ⟨brought, heq, hnd, hfree, -⟩ := close_eq_append node (given node picked.eraseDups)
  have hclosed : (close node (given node picked.eraseDups)).Nodup := by
    rw [heq]
    exact hchoice.nodup_given.append hnd fun name hgiven hbrought => hfree name hbrought hgiven
  exact (fill_ensures node hclosed).imp_value fun names h => ⟨_, hchoice, h⟩

/-! ## Selections -/

/-- No table lists names under any name. -/
def BringsNothing (tables : List Fields) : Prop :=
  ∀ table ∈ tables, ∀ name items, table.get? name ≠ some (.array items)

theorem close_of_bringsNothing {node : Node} (h : BringsNothing (dependencyTables node))
    (names : List String) : close node names = names := by
  obtain ⟨brought, heq, -, hfree, hreach⟩ := close_eq_append node names
  have hnil : brought = [] := by
    refine List.eq_nil_iff_forall_not_mem.mpr fun name hname => ?_
    obtain ⟨origin, horigin, hsteps⟩ := hreach name hname
    rcases hsteps.cases_head with rfl | ⟨_, ⟨table, htable, items, hget, -⟩, -⟩
    · exact hfree _ hname horigin
    · exact h table htable _ items hget
  rw [heq, hnil, List.append_nil]

/-- What the names of a sample are: the different required names, in the order
of their first occurrences, then optional names in their own order, then names
that these bring along, then made-up ones. -/
structure IsSelection (node : Node) (names : List String) : Prop where
  parts : ∃ chosen brought made,
    names = (required node).eraseDups ++ chosen ++ brought ++ made
    ∧ chosen.Sublist (optional node)
    ∧ (∀ name ∈ brought, ∃ origin ∈ (required node).eraseDups ++ chosen,
        Relation.ReflTransGen (Brings (dependencyTables node)) origin name)
    ∧ (∀ name ∈ made, IsMadeUp node name)
    ∧ (made ≠ [] → names.length = (node.count? "minProperties").getD 0)
  nodup : names.Nodup
  least_le : (node.count? "minProperties").getD 0 ≤ names.length
  le_most : ∀ most, node.count? "maxProperties" = some most →
    BringsNothing (dependencyTables node) →
    names.length
      ≤ max (max most (required node).eraseDups.length) ((node.count? "minProperties").getD 0)

theorem IsChoice.length_given_le {node : Node} {chosen : List String} (h : IsChoice node chosen)
    {most : Nat} (hmost : node.count? "maxProperties" = some most) :
    (given node chosen).length ≤ max most (required node).eraseDups.length := by
  have hroom : chosen.length ≤ most - (required node).length := by
    refine h.length_le.trans ?_
    simp only [optionalCounts, hmost]
    exact Nat.min_le_right ..
  have hdistinct := (eraseDups_sublist (required node)).length_le
  rw [given, List.length_append]
  omega

/-- A filling of the closure is a selection. -/
theorem IsFilling.isSelection {node : Node} {chosen names : List String}
    (hchoice : IsChoice node chosen)
    (h : IsFilling node (close node (given node chosen)) names) : IsSelection node names := by
  obtain ⟨made, hnames, hmade, hlength⟩ := h.made
  obtain ⟨brought, hclose, -, -, hreach⟩ := close_eq_append node (given node chosen)
  refine ⟨⟨chosen, brought, made, ?_, hchoice.sublist, hreach, hmade, hlength⟩, h.nodup,
    h.least_le, fun most hmost hnothing => ?_⟩
  · rw [hnames, hclose, given]
  · by_cases hnil : made = []
    · have hle := hchoice.length_given_le hmost
      rw [hnames, hnil, List.append_nil, close_of_bringsNothing hnothing]
      omega
    · have heq := hlength hnil
      omega

theorem isOpen_eq_false {node : Node} :
    isOpen node = false ↔ node.value? "additionalProperties" = some (.bool false) := by
  unfold isOpen
  split
  · next h => simp [h]
  · next h => simpa using h

/-- Whatever the source, a selection has its four parts, without repetitions and
within its bounds, and it can fail only for an object that is closed; the first
suffix from the number of names on that is not taken is found whenever one is
looked for. -/
theorem select_isSelection (node : Node) :
    Ensures (select node : Draw σ SchemaError (List String)) (IsSelection node)
        (fun _ => node.value? "additionalProperties" = some (.bool false))
      ∧ ∀ names base, ∃ n ≥ names.length, suffixed names base = base ++ "_" ++ toString n
          ∧ suffixed names base ∉ names
          ∧ ∀ k, names.length ≤ k → k < n → base ++ "_" ++ toString k ∈ names := by
  refine ⟨(select_fills node).imp ?_ fun _ he => isOpen_eq_false.mp he.closed,
    fun names base => ?_⟩
  · rintro names ⟨chosen, hchoice, hfilling⟩
    exact hfilling.isSelection hchoice
  · obtain ⟨n, hn, heq, hfree, hbefore⟩ := suffixed_eq names base
    exact ⟨n, hn, heq, heq ▸ hfree, hbefore⟩

theorem select_isSelection_scripted :
    IsSelection
      ⟨[("dependencies", .object [("a", .array [.string "b"])]),
        ("minProperties", .number (.int 3)), ("required", .array [.string "a", .string "a"])]⟩
      ["a", "b", "alias"] := by
  have hrun : ((select ⟨[("dependencies", .object [("a", .array [.string "b"])]),
        ("minProperties", .number (.int 3)),
        ("required", .array [.string "a", .string "a"])]⟩).run 1
      (⟨[0, 0], 0⟩ : Scripted)).1.toOption = some ["a", "b", "alias"] := by decide +kernel
  exact (select_isSelection _).1.value (run_of_toOption hrun)

/-! ## Closure under dependencies -/

theorem steady_fillOpen :
    ∀ (missing : Nat) (names : List String),
      Steady (fillOpen names missing : Draw σ SchemaError (List String))
  | 0, names => steady_pure names
  | missing + 1, _ => steady_word.bind fun _ => steady_fillOpen missing _

theorem steady_fillClosed (patterns : List Pattern) (least : Nat) :
    ∀ (rounds attempts : Nat) (names : List String),
      Steady (fillClosed patterns least attempts names rounds : Draw σ SchemaError (List String))
  | 0, _, names => steady_pure names
  | rounds + 1, attempts, names => by
      have hrest (candidate : String) : Steady
          (if candidate ∈ names then
            if attempts + 1 < attemptLimit then
              fillClosed patterns least (attempts + 1) names rounds
            else Draw.fail (.malformed (.namesRepeated names.length least))
          else fillClosed patterns least attempts (names ++ [candidate]) rounds :
            Draw σ SchemaError (List String)) := by
        split
        · split
          · exact steady_fillClosed patterns least rounds (attempts + 1) names
          · exact steady_fail _
        · exact steady_fillClosed patterns least rounds attempts _
      unfold fillClosed
      split
      · exact steady_pure names
      · refine (steady_element patterns).bind fun p? => ?_
        cases p? with
        | some p => exact (Pattern.steady_draw p).bind hrest
        | none => exact steady_word.bind hrest

theorem steady_fill (node : Node) (names : List String) :
    Steady (fill node names : Draw σ SchemaError (List String)) := by
  unfold fill
  dsimp only
  split
  · exact steady_pure names
  · split
    · exact steady_fillOpen _ names
    · refine (steady_ofExcept _).bind fun patterns => ?_
      split
      · exact steady_fail _
      · exact steady_fillClosed patterns _ _ _ names

theorem steady_select (node : Node) : Steady (select node : Draw σ SchemaError (List String)) :=
  (steady_countBetween _ _).bind fun count =>
    (steady_elements _ count).bind fun _ => steady_fill node _

end Specimen.PropertyNames
