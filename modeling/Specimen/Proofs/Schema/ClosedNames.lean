import Specimen.Proofs.Pattern.Found
import Specimen.Proofs.Schema.Selection
import Specimen.Schema.PropertyTable

/-!
# Made-up names of closed objects

The names that are made up for an object without other properties are drawn from the
keys that it has schemas for. A name is drawn for the ASCII reading of its key, in which
it is found, while its schema is looked up by the key as it is written. The two agree
where the key has no digit or word shorthand (`select_declared`), and need not where it
has one (`select_undeclared`).
-/

namespace Specimen

open Draw Pattern

/-! ## Keys -/

/-- The keys of the schemas by pattern. -/
def patternKeys (node : Node) : List String :=
  Fields.names ((node.object? "patternProperties").getD [])

theorem PropertyNames.parse_of_mem : ∀ {keys : List String} {patterns : List Pattern},
    parsePatterns keys = .ok patterns → ∀ p ∈ patterns, ∃ key ∈ keys, Pattern.parse key = .ok p
  | [], patterns, h, p, hp => by
      cases h
      cases hp
  | key :: rest, patterns, h, p, hp => by
      unfold parsePatterns at h
      split at h
      · cases h
      · next first hfirst =>
          cases hrest : parsePatterns rest with
          | error e =>
              rw [hrest] at h
              cases h
          | ok others =>
              rw [hrest] at h
              cases h
              rcases List.mem_cons.mp hp with rfl | hp
              · exact ⟨key, List.mem_cons_self, hfirst⟩
              · obtain ⟨other, hother, hparse⟩ := parse_of_mem hrest p hp
                exact ⟨other, List.mem_cons_of_mem _ hother, hparse⟩

theorem PropertyTable.compile_of_mem : ∀ {fields : Fields} {patterns : List (Matcher × Json)},
    compileAll fields = .ok patterns → ∀ key ∈ Fields.names fields,
      ∃ m schema, Matcher.compile key = .ok m ∧ (m, schema) ∈ patterns
  | [], _, _, key, hkey => by cases hkey
  | (first, schema) :: rest, patterns, h, key, hkey => by
      unfold compileAll at h
      split at h
      · cases h
      · next m hm =>
          cases hrest : compileAll rest with
          | error e =>
              rw [hrest] at h
              cases h
          | ok others =>
              rw [hrest] at h
              cases h
              rcases List.mem_cons.mp hkey with rfl | hkey
              · exact ⟨m, schema, hm, List.mem_cons_self⟩
              · obtain ⟨m', schema', hm', hmem⟩ := compile_of_mem hrest key hkey
                exact ⟨m', schema', hm', List.mem_cons_of_mem _ hmem⟩

/-- A matcher reads its key as it is written. -/
theorem Matcher.meaning_of_compile {key : String} {m : Matcher} (h : compile key = .ok m) :
    ∃ regex modes, Regex.parse key.toList = .ok regex
      ∧ regex.meaning .initial = .ok (m.expr, modes) := by
  unfold compile at h
  split at h
  · next expr hexpr =>
      obtain ⟨regex, hregex, hexpr⟩ := ok_of_bind hexpr
      obtain ⟨⟨e, modes⟩, he, hexpr⟩ := ok_of_bind hexpr
      cases hexpr
      cases h
      exact ⟨regex, modes, hregex, he⟩
  · cases h

/-- A schema whose key is found in a name is there for the name, or another comes before
it. -/
theorem PropertyTable.lookup_of_isMatch {table : PropertyTable} {m : Matcher} {schema : Json}
    (hmem : (m, schema) ∈ table.patterns) {name : String} (h : m.isMatch name = true) :
    ∃ found, table.lookup name = some found := by
  unfold lookup
  split
  · exact ⟨_, rfl⟩
  · have hsome : (table.patterns.find? fun entry => entry.1.isMatch name).isSome = true :=
      List.find?_isSome.mpr ⟨_, hmem, h⟩
    split
    · exact ⟨_, rfl⟩
    · next hnone =>
        rw [hnone] at hsome
        cases hsome

/-! ## Names -/

/-- A name with a key that is found in it, digit and word shorthands standing for ASCII
characters. -/
structure IsDrawnFor (node : Node) (key name : String) (regex : Regex) : Prop where
  key_mem : key ∈ patternKeys node
  parse : Regex.parse key.toList = .ok regex
  found : ∃ e modes, regex.ascii.meaning .initial = .ok (e, modes)
    ∧ e.isFoundIn name.toList = true

theorem PropertyNames.IsMadeUp.isDrawnFor {node : Node} {name : String} (h : IsMadeUp node name)
    (hclosed : isOpen node = false) {table : PropertyTable}
    (htable : PropertyTable.ofNode node = .ok table) : ∃ key regex, IsDrawnFor node key name regex := by
  have hnotOpen (hopen : isOpen node = true) : False := by
    rw [hclosed] at hopen
    cases hopen
  cases h with
  | word hopen _ => exact (hnotOpen hopen).elim
  | suffixed _ hopen _ => exact (hnotOpen hopen).elim
  | drawn _ hpatterns hp hname =>
      obtain ⟨key, hkey, hparse⟩ := parse_of_mem hpatterns _ hp
      obtain ⟨patterns, hcompile, -⟩ := ok_of_bind htable
      obtain ⟨m, _, hm, -⟩ := PropertyTable.compile_of_mem hcompile key hkey
      obtain ⟨regex, _, hregex, -⟩ := Matcher.meaning_of_compile hm
      obtain ⟨e, modes, he, hfound⟩ := found_of_canDraw hparse hregex
      exact ⟨key, regex, hkey, hregex, e, modes, he, hfound name hname⟩

/-- A key without digit and word shorthands is read alike where names are drawn and where
they are looked up. -/
theorem IsDrawnFor.lookup {node : Node} {key name : String} {regex : Regex}
    (h : IsDrawnFor node key name regex) (hascii : regex.ascii = regex) {table : PropertyTable}
    (htable : PropertyTable.ofNode node = .ok table) : ∃ schema, table.lookup name = some schema := by
  obtain ⟨patterns, hcompile, htable⟩ := ok_of_bind htable
  cases htable
  obtain ⟨m, schema, hm, hmem⟩ := PropertyTable.compile_of_mem hcompile key h.key_mem
  obtain ⟨regex', modes', hregex', hmeaning⟩ := Matcher.meaning_of_compile hm
  obtain ⟨e, modes, he, hfound⟩ := h.found
  cases h.parse.symm.trans hregex'
  rw [hascii] at he
  cases hmeaning.symm.trans he
  exact PropertyTable.lookup_of_isMatch hmem hfound

namespace PropertyNames

variable {σ : Type} [Source σ]

/-- The names that are made up for a closed object are drawn for its keys: each is found
by one in its ASCII reading, and has a schema declared for it if that key has no digit
or word shorthand. -/
theorem select_declared {node : Node}
    (hclosed : node.value? "additionalProperties" = some (.bool false)) {table : PropertyTable}
    (htable : PropertyTable.ofNode node = .ok table) :
    Ensures (select node : Draw σ SchemaError (List String))
      (fun names => ∃ chosen made, IsChoice node chosen
        ∧ names = close node (given node chosen) ++ made
        ∧ ∀ name ∈ made, ∃ key regex, IsDrawnFor node key name regex
          ∧ (regex.ascii = regex → ∃ schema, table.lookup name = some schema))
      fun _ => True := by
  refine (select_fills node).imp ?_ fun _ _ => trivial
  rintro names ⟨chosen, hchoice, hfilling⟩
  obtain ⟨made, hnames, hmade, -⟩ := hfilling.made
  refine ⟨chosen, made, hchoice, hnames, fun name hname => ?_⟩
  obtain ⟨key, regex, hdrawn⟩ :=
    (hmade name hname).isDrawnFor (isOpen_eq_false.mpr hclosed) htable
  exact ⟨key, regex, hdrawn, fun hascii => hdrawn.lookup hascii htable⟩

/-- An object that must have a property and can have no others than those of one key. -/
def onlyKey (key : String) : Node :=
  ⟨[("additionalProperties", .bool false), ("minProperties", .number (.int 1)),
    ("patternProperties", .object [(key, Kind.null.toSchema)])]⟩

theorem select_declared_scripted :
    ∃ table, PropertyTable.ofNode (onlyKey "^a$") = .ok table
      ∧ ∃ chosen made, IsChoice (onlyKey "^a$") chosen
        ∧ ["a"] = close (onlyKey "^a$") (given (onlyKey "^a$") chosen) ++ made
        ∧ ∀ name ∈ made, ∃ key regex, IsDrawnFor (onlyKey "^a$") key name regex
          ∧ (regex.ascii = regex → ∃ schema, table.lookup name = some schema) := by
  have hrun : ((select (onlyKey "^a$")).run 3 (⟨[], 0⟩ : Scripted)).1.toOption = some ["a"] := by
    decide +kernel
  exact ⟨_, rfl, (select_declared rfl rfl).value (run_of_toOption hrun)⟩

/-- A character that is no ASCII digit can be a digit of another script. It makes a name
for a key that asks for something else than a digit, which is not found when the name is
looked up. -/
theorem select_undeclared :
    (onlyKey "^\\D$").value? "additionalProperties" = some (.bool false)
      ∧ (∃ rest : Scripted, (select (onlyKey "^\\D$")).run 3 ⟨[], 11821⟩ = (.ok ["៧"], rest))
      ∧ ∃ table, PropertyTable.ofNode (onlyKey "^\\D$") = .ok table ∧ table.lookup "៧" = none := by
  have hrun : ((select (onlyKey "^\\D$")).run 3 (⟨[], 11821⟩ : Scripted)).1.toOption
      = some ["៧"] := by decide +kernel
  exact ⟨rfl, ⟨_, run_of_toOption hrun⟩, _, rfl, Option.isNone_iff_eq_none.mp (by decide +kernel)⟩

end PropertyNames

end Specimen
