import Mathlib.Order.Bounds.Basic
import Specimen.Proofs.Schema.Dependencies

/-!
# The worklist ends with the least closure

The worklist of `close` goes in rounds (`Round`): each looks at the next name of the list
and puts what this name brings along at the end of it. A round leaves no choice, and with the
rounds that it is given the worklist gets to where no name is left (`closeFrom_rounds`). So
every run of rounds ends there, at the latest after one round for each name of the result,
cycles among the dependencies or not.

What a schema says about dependents is read off its two keywords (`Lists`). The result holds
the given names first, no name twice, and it is the least set of names that holds the given
ones and with each of its names all dependents of that name (`close_isClosure`).
-/

namespace Specimen.PropertyNames

open Relation

/-! ## Listed dependents -/

/-- A schema lists a name as dependent on another: under one of the two keywords there is a
table with a list under the other name, and the list holds the first as a string. -/
def Lists (node : Node) (name dependent : String) : Prop :=
  ∃ keyword ∈ ["dependencies", "dependentRequired"], ∃ (table : Fields) (items : List Json),
    node.value? keyword = some (.object table) ∧ table.get? name = some (.array items)
      ∧ .string dependent ∈ items

theorem mem_dependencyTables {node : Node} {table : Fields} :
    table ∈ dependencyTables node
      ↔ ∃ keyword ∈ ["dependencies", "dependentRequired"],
        node.value? keyword = some (.object table) := by
  unfold dependencyTables
  rw [List.mem_filterMap]
  refine exists_congr fun keyword => and_congr_right fun _ => ?_
  unfold Node.object?
  cases node.value? keyword with
  | none => simp
  | some value => cases value <;> simp [Json.object?]

theorem lists_iff {node : Node} {name dependent : String} :
    Lists node name dependent ↔ Brings (dependencyTables node) name dependent := by
  constructor
  · rintro ⟨keyword, hkeyword, table, items, hvalue, hget, hmem⟩
    exact ⟨table, mem_dependencyTables.mpr ⟨keyword, hkeyword, hvalue⟩, items, hget, hmem⟩
  · rintro ⟨table, htable, items, hget, hmem⟩
    obtain ⟨keyword, hkeyword, hvalue⟩ := mem_dependencyTables.mp htable
    exact ⟨keyword, hkeyword, table, items, hvalue, hget, hmem⟩

/-! ## Rounds of the worklist -/

/-- One round: the name at the next place is looked at. -/
inductive Round (tables : List Fields) : Nat × List String → Nat × List String → Prop
  | look {next : Nat} {names : List String} {name : String} (h : names[next]? = some name) :
      Round tables (next, names) (next + 1, addAll names (dependents tables name))

variable {tables : List Fields}

theorem Round.rightUnique : Relator.RightUnique (Round tables) := by
  rintro _ _ _ ⟨h⟩ ⟨h'⟩
  obtain rfl := Option.some.inj (h.symm.trans h')
  rfl

/-- Where no name is left there is no round. -/
theorem Round.none_left {names : List String} {state : Nat × List String} :
    ¬ Round tables (names.length, names) state := by
  rintro ⟨h⟩
  rw [List.getElem?_eq_none (Nat.le_refl _)] at h
  cases h

theorem Round.le_of_reflTransGen {state state' : Nat × List String}
    (h : ReflTransGen (Round tables) state state') : state.1 ≤ state'.1 := by
  induction h with
  | refl => exact Nat.le_refl _
  | tail _ hround ih =>
      obtain ⟨_⟩ := hround
      exact Nat.le_succ_of_le ih

/-- The worklist goes on round by round until no name is left. -/
theorem closeFrom_rounds {given : List String} :
    ∀ (rounds next : Nat) (names : List String), Progress tables given next names →
      next ≤ names.length → given.length + (mentioned tables).length ≤ next + rounds →
      ReflTransGen (Round tables) (next, names)
        ((closeFrom tables next names rounds).length, closeFrom tables next names rounds)
  | 0, next, names, h, hnext, hrounds => by
      have hend : next = names.length := Nat.le_antisymm hnext (h.length_le.trans hrounds)
      subst hend
      exact .refl
  | rounds + 1, next, names, h, hnext, hrounds => by
      unfold closeFrom
      split
      · next hnone =>
          have hend : next = names.length :=
            Nat.le_antisymm hnext (List.getElem?_eq_none_iff.mp hnone)
          subst hend
          exact .refl
      · next name hname =>
          have hlt : next < names.length := (List.getElem?_eq_some_iff.mp hname).1
          have hgrows : names.length ≤ (addAll names (dependents tables name)).length := by
            rw [addAll_eq, List.length_append]
            exact Nat.le_add_right ..
          exact .head (.look hname)
            (closeFrom_rounds rounds (next + 1) _ (h.step hname) (by omega) (by omega))

/-- A run of rounds that has got to the end is the longest there is. -/
theorem Round.le_length {given names : List String} {state : Nat × List String}
    (hend : ReflTransGen (Round tables) (0, given) (names.length, names))
    (h : ReflTransGen (Round tables) (0, given) state) : state.1 ≤ names.length := by
  rcases ReflTransGen.total_of_right_unique Round.rightUnique hend h with hafter | hbefore
  · rcases hafter.cases_head with heq | ⟨_, hround, -⟩
    · exact heq ▸ Nat.le_refl _
    · exact absurd hround Round.none_left
  · exact Round.le_of_reflTransGen hbefore

/-! ## The least closure -/

/-- A set of names holds with each name all its dependents. -/
def IsClosed (node : Node) (S : Set String) : Prop :=
  ∀ name ∈ S, ∀ dependent, Lists node name dependent → dependent ∈ S

/-- What the worklist makes of the names that it is given. -/
structure IsClosure (node : Node) (given names : List String) : Prop where
  /-- After a round for each name there is none left. -/
  ends : ReflTransGen (Round (dependencyTables node)) (0, given) (names.length, names)
  /-- However far the rounds have gone, there were no more of them than that. -/
  bounded : ∀ state, ReflTransGen (Round (dependencyTables node)) (0, given) state →
    state.1 ≤ names.length
  starts : given <+: names
  nodup : names.Nodup
  least : IsLeast {S : Set String | (∀ name ∈ given, name ∈ S) ∧ IsClosed node S}
    {name | name ∈ names}
  reached : ∀ name, name ∈ names ↔ ∃ origin ∈ given, ReflTransGen (Lists node) origin name

theorem mem_close_iff_lists (node : Node) (given : List String) {name : String} :
    name ∈ close node given ↔ ∃ origin ∈ given, ReflTransGen (Lists node) origin name := by
  have hlists : Lists node = Brings (dependencyTables node) :=
    funext₂ fun _ _ => propext lists_iff
  rw [hlists]
  exact mem_close_iff node given

/-- What can be reached from the given names is the least closed set that holds them. -/
theorem close_isLeast (node : Node) (given : List String) :
    IsLeast {S : Set String | (∀ name ∈ given, name ∈ S) ∧ IsClosed node S}
      {name | name ∈ close node given} := by
  refine ⟨⟨fun name hname => ?_, fun name hname dependent h => ?_⟩, fun S hS name hname => ?_⟩
  · exact (mem_close_iff node given).mpr ⟨name, hname, .refl⟩
  · exact close_closed node given hname (lists_iff.mp h)
  · obtain ⟨origin, horigin, hreach⟩ := (mem_close_iff_lists node given).mp hname
    induction hreach with
    | refl => exact hS.1 origin horigin
    | tail hbefore hlists ih =>
        exact hS.2 _ (ih ((mem_close_iff_lists node given).mpr ⟨origin, horigin, hbefore⟩)) _ hlists

/-- The closure of names of which none comes twice. -/
theorem close_isClosure (node : Node) {given : List String} (hgiven : given.Nodup) :
    IsClosure node given (close node given) := by
  have hends : ReflTransGen (Round (dependencyTables node)) (0, given)
      ((close node given).length, close node given) :=
    closeFrom_rounds _ 0 given (.start ..) (Nat.zero_le _) (by omega)
  obtain ⟨brought, heq, hbrought, hfree, -⟩ := close_eq_append node given
  refine ⟨hends, fun _ => Round.le_length hends, ?_, ?_, close_isLeast node given,
    fun _ => mem_close_iff_lists node given⟩
  · exact heq ▸ List.prefix_append ..
  · rw [heq]
    exact hgiven.append hbrought fun name hname hin => hfree name hin hname

/-- Three names that bring one another along, in two tables, beside entries that bring
nothing. -/
def cyclic : Node :=
  ⟨[("dependencies", .object [("a", .array [.string "b"]), ("c", .array [.string "a"]),
      ("x", .object [("required", .array [.string "y"])])]),
    ("dependentRequired", .object [("b", .array [.null, .string "c", .string "b"])])]⟩

theorem close_isClosure_cyclic :
    ["x", "a"].Nodup ∧ IsClosure cyclic ["x", "a"] ["x", "a", "b", "c"] := by
  have hclose : close cyclic ["x", "a"] = ["x", "a", "b", "c"] := by decide +kernel
  have hgiven : ["x", "a"].Nodup := by decide
  exact ⟨hgiven, hclose ▸ close_isClosure cyclic hgiven⟩

end Specimen.PropertyNames
