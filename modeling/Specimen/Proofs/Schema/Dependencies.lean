import Mathlib.Data.List.Nodup
import Mathlib.Data.List.Perm.Subperm
import Mathlib.Logic.Relation
import Specimen.Proofs.Json.Fields
import Specimen.Schema.PropertyNames

/-!
# Names and what they bring along

A name *brings* another if some list of dependents under it holds the other. The
worklist of `close` computes what can be reached from the given names by bringing
(`mem_close_iff`): one direction is an invariant of the worklist, in which every
name that was added was brought by one that was there before, and the other is
that the result is closed (`close_closed`).

Closedness needs the worklist to get to its own end. It looks at one name in
every round, and every name beyond the given ones is mentioned in a table and was
not there before, so the list never gets longer than the rounds it is given
(`Progress`).
-/

namespace Specimen.PropertyNames

/-! ## First occurrences -/

theorem eraseDups_sublist : ∀ l : List String, l.eraseDups.Sublist l
  | [] => .slnil
  | a :: l => by
      rw [List.eraseDups_cons]
      exact ((eraseDups_sublist (l.filter fun b => !b == a)).trans List.filter_sublist).cons_cons a
termination_by l => l.length
decreasing_by exact Nat.lt_succ_of_le (List.length_filter_le ..)

theorem nodup_eraseDups : ∀ l : List String, l.eraseDups.Nodup
  | [] => by simp
  | a :: l => by
      rw [List.eraseDups_cons, List.nodup_cons]
      refine ⟨fun h => ?_, nodup_eraseDups (l.filter fun b => !b == a)⟩
      simp [List.mem_eraseDups] at h
termination_by l => l.length
decreasing_by exact Nat.lt_succ_of_le (List.length_filter_le ..)

/-- Adding names appends, in the order of their first occurrences, those that are
not there yet. -/
theorem addAll_eq (names more : List String) :
    addAll names more = names ++ (more.filter (· ∉ names)).eraseDups := by
  induction more generalizing names with
  | nil => simp [addAll]
  | cons name more ih =>
      have hstep : addAll names (name :: more) = addAll (add names name) more := rfl
      rw [hstep, ih]
      by_cases h : name ∈ names
      · simp [add, h]
      · have hrest : (more.filter (· ∉ names)).filter (fun b => !b == name)
            = more.filter (· ∉ names ++ [name]) := by
          rw [List.filter_filter]
          refine List.filter_congr fun b _ => ?_
          by_cases hb : b = name <;> simp [hb]
        rw [List.filter_cons_of_pos (by simpa using h), List.eraseDups_cons, hrest]
        simp [add, h]

/-! ## Bringing -/

/-- One name brings another along: a table of dependencies lists the other under
it. Schemas in such a table bring nothing. -/
def Brings (tables : List Fields) (name dependent : String) : Prop :=
  ∃ table ∈ tables, ∃ items, table.get? name = some (.array items) ∧ .string dependent ∈ items

theorem mem_filterMap_string? {items : List Json} {name : String} :
    name ∈ items.filterMap Json.string? ↔ .string name ∈ items := by
  rw [List.mem_filterMap]
  constructor
  · rintro ⟨item, hmem, hitem⟩
    cases item with
    | string s => exact Option.some.inj hitem ▸ hmem
    | _ => cases hitem
  · exact fun hmem => ⟨_, hmem, rfl⟩

theorem mem_dependents {tables : List Fields} {name dependent : String} :
    dependent ∈ dependents tables name ↔ Brings tables name dependent := by
  unfold dependents
  rw [List.mem_flatMap]
  refine exists_congr fun table => and_congr_right fun _ => ?_
  split
  · next items hget =>
      rw [mem_filterMap_string?]
      refine ⟨fun h => ⟨items, hget, h⟩, ?_⟩
      rintro ⟨_, hget', h⟩
      cases hget.symm.trans hget'
      exact h
  · next hnone =>
      refine ⟨fun h => absurd h List.not_mem_nil, ?_⟩
      rintro ⟨items, hget, -⟩
      exact (hnone items hget).elim

theorem Brings.mem_mentioned {tables : List Fields} {name dependent : String}
    (h : Brings tables name dependent) : dependent ∈ mentioned tables := by
  obtain ⟨table, htable, items, hget, hmem⟩ := h
  unfold mentioned
  refine List.mem_flatMap.mpr ⟨table, htable, List.mem_flatMap.mpr ⟨_, Fields.mem_of_get? hget, ?_⟩⟩
  exact mem_filterMap_string?.mpr hmem

/-! ## The worklist -/

/-- How far the worklist is: what it was given, followed by different names that
were brought along, and all names before the next one with what they bring. -/
structure Progress (tables : List Fields) (given : List String) (next : Nat)
    (names : List String) : Prop where
  added : ∃ brought, names = given ++ brought ∧ brought.Nodup
    ∧ (∀ name ∈ brought, name ∈ mentioned tables ∧ name ∉ given)
    ∧ ∀ name ∈ brought, ∃ origin ∈ given, Relation.ReflTransGen (Brings tables) origin name
  settled : ∀ i < next, ∀ name, names[i]? = some name →
    ∀ dependent, Brings tables name dependent → dependent ∈ names

theorem Progress.start (tables : List Fields) (given : List String) :
    Progress tables given 0 given where
  added := ⟨[], by simp, List.nodup_nil, by simp, by simp⟩
  settled i hi := by omega

theorem Progress.reachable {tables : List Fields} {given names : List String} {next : Nat}
    (h : Progress tables given next names) {name : String} (hmem : name ∈ names) :
    ∃ origin ∈ given, Relation.ReflTransGen (Brings tables) origin name := by
  obtain ⟨brought, rfl, -, -, hreach⟩ := h.added
  rcases List.mem_append.mp hmem with hmem | hmem
  · exact ⟨name, hmem, .refl⟩
  · exact hreach name hmem

/-- The worklist is no longer than what it was given and what the tables
mention. -/
theorem Progress.length_le {tables : List Fields} {given names : List String} {next : Nat}
    (h : Progress tables given next names) :
    names.length ≤ given.length + (mentioned tables).length := by
  obtain ⟨brought, rfl, hnd, hmem, -⟩ := h.added
  rw [List.length_append]
  have hle := (hnd.subperm fun name hname => (hmem name hname).1).length_le
  omega

/-- Looking at one more name. -/
theorem Progress.step {tables : List Fields} {given names : List String} {next : Nat}
    (h : Progress tables given next names) {name : String} (hnext : names[next]? = some name) :
    Progress tables given (next + 1) (addAll names (dependents tables name)) := by
  have hname : name ∈ names := List.mem_of_getElem? hnext
  obtain ⟨origin, horigin, hreach⟩ := h.reachable hname
  obtain ⟨brought, hnames, hnd, hmem, hbrought⟩ := h.added
  rw [addAll_eq]
  have hnew : ∀ new ∈ ((dependents tables name).filter (· ∉ names)).eraseDups,
      Brings tables name new ∧ new ∉ names := by
    intro new hin
    rw [List.mem_eraseDups, List.mem_filter, decide_eq_true_eq] at hin
    exact ⟨mem_dependents.mp hin.1, hin.2⟩
  constructor
  · refine ⟨brought ++ ((dependents tables name).filter (· ∉ names)).eraseDups, ?_, ?_, ?_, ?_⟩
    · rw [← List.append_assoc, ← hnames]
    · refine hnd.append (nodup_eraseDups _) fun new hold hin => ?_
      exact (hnew new hin).2 (hnames ▸ List.mem_append_right _ hold)
    · intro new hin
      rcases List.mem_append.mp hin with hin | hin
      · exact hmem new hin
      · obtain ⟨hbrings, hfree⟩ := hnew new hin
        exact ⟨hbrings.mem_mentioned, fun hg => hfree (hnames ▸ List.mem_append_left _ hg)⟩
    · intro new hin
      rcases List.mem_append.mp hin with hin | hin
      · exact hbrought new hin
      · exact ⟨origin, horigin, hreach.tail (hnew new hin).1⟩
  · intro i hi other hother dependent hbrings
    have hlt : next < names.length := (List.getElem?_eq_some_iff.mp hnext).1
    rw [List.getElem?_append_left (by omega)] at hother
    rcases Nat.lt_succ_iff_lt_or_eq.mp hi with hi | rfl
    · exact List.mem_append_left _ (h.settled i hi other hother dependent hbrings)
    · obtain rfl := Option.some.inj (hnext.symm.trans hother)
      by_cases hin : dependent ∈ names
      · exact List.mem_append_left _ hin
      · refine List.mem_append_right _ (List.mem_eraseDups.mpr (List.mem_filter.mpr ?_))
        exact ⟨mem_dependents.mpr hbrings, by simpa using hin⟩

/-- The worklist gets to its end in as many rounds as there can be names. -/
theorem closeFrom_progress {tables : List Fields} {given : List String} :
    ∀ (rounds next : Nat) (names : List String), Progress tables given next names →
      given.length + (mentioned tables).length ≤ next + rounds →
      ∃ last, (closeFrom tables next names rounds).length ≤ last
        ∧ Progress tables given last (closeFrom tables next names rounds)
  | 0, next, names, h, hrounds => ⟨next, Nat.le_trans h.length_le hrounds, h⟩
  | rounds + 1, next, names, h, hrounds => by
      unfold closeFrom
      split
      · next hnone => exact ⟨next, List.getElem?_eq_none_iff.mp hnone, h⟩
      · next name hname =>
          exact closeFrom_progress rounds (next + 1) _ (h.step hname) (by omega)

theorem close_progress (node : Node) (names : List String) :
    ∃ last, (close node names).length ≤ last
      ∧ Progress (dependencyTables node) names last (close node names) :=
  closeFrom_progress _ 0 names (.start ..) (by omega)

/-! ## The closure -/

/-- What the closure adds comes after the given names, once each, and is reached
from them. -/
theorem close_eq_append (node : Node) (names : List String) :
    ∃ brought, close node names = names ++ brought ∧ brought.Nodup
      ∧ (∀ name ∈ brought, name ∉ names)
      ∧ ∀ name ∈ brought, ∃ origin ∈ names,
          Relation.ReflTransGen (Brings (dependencyTables node)) origin name := by
  obtain ⟨last, -, h⟩ := close_progress node names
  obtain ⟨brought, heq, hnd, hmem, hreach⟩ := h.added
  exact ⟨brought, heq, hnd, fun name hname => (hmem name hname).2, hreach⟩

/-- Every name of the closure has with it what it brings. -/
theorem close_closed (node : Node) (names : List String) {name dependent : String}
    (hname : name ∈ close node names) (h : Brings (dependencyTables node) name dependent) :
    dependent ∈ close node names := by
  obtain ⟨last, hlast, hprogress⟩ := close_progress node names
  obtain ⟨i, hi, hget⟩ := List.mem_iff_getElem.mp hname
  exact hprogress.settled i (by omega) name (hget ▸ List.getElem?_eq_getElem hi) dependent h

/-- The closure is what can be reached. -/
theorem mem_close_iff (node : Node) (names : List String) {name : String} :
    name ∈ close node names
      ↔ ∃ origin ∈ names, Relation.ReflTransGen (Brings (dependencyTables node)) origin name := by
  constructor
  · obtain ⟨last, -, h⟩ := close_progress node names
    exact h.reachable
  · rintro ⟨origin, horigin, hreach⟩
    induction hreach with
    | refl =>
        obtain ⟨brought, heq, -⟩ := close_eq_append node names
        exact heq ▸ List.mem_append_left _ horigin
    | tail _ hbrings ih => exact close_closed node names ih hbrings

end Specimen.PropertyNames
