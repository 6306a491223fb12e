import Specimen.Proofs.Schema.Alike
import Specimen.Schema.Bounds
import Specimen.Schema.Sizes

/-!
# What a node is read for

A sample looks up certain keywords in a node (`readKeywords`), and under some of them it
finds schemas (`schemasUnder`). Two nodes *read alike* for a relation `R` if the values of
these keywords are equal but for the schemas under them, which are related by `R`
(`Node.ReadsAlike`). Nothing is said of other keywords.

Whatever a node is read for, but for the schemas inside it, is then the same on both
sides: the keywords that hold no schemas have equal values (`Node.ReadsSame`).
-/

namespace Specimen

/-! ## Keywords -/

/-- The keywords without schemas that a node is read for. -/
def plainKeywords : List String :=
  ["type", "enum", "const", "$ref", "required", "dependencies", "dependentRequired",
    "minProperties", "maxProperties", "minItems", "maxItems", "uniqueItems", "minimum", "maximum",
    "exclusiveMinimum", "exclusiveMaximum", "multipleOf", "minLength", "maxLength", "format",
    "pattern"]

/-- The keywords that a node is read for. -/
def readKeywords : List String := plainKeywords ++ schemaKeywords

/-- The keywords that a node is read for once branches have been laid over it. -/
def bareKeywords : List String := readKeywords.filter (· ∉ Overlay.keywords)

theorem mem_bareKeywords_of_plain : ∀ key ∈ plainKeywords, key ∈ bareKeywords := by decide

theorem mem_bareKeywords_of_table : ∀ key ∈ tableKeywords, key ∈ bareKeywords := by decide

/-- The schemas directly under a keyword. -/
def schemasUnder (key : String) : Json → List Json
  | .object fields =>
    if key ∈ tableKeywords then fields.map Prod.snd
    else if key = "additionalProperties" ∨ key = "items" then [.object fields] else []
  | .array items => if key = "items" ∨ key ∈ Overlay.keywords then items else []
  | _ => []

theorem schemasUnder_table {key : String} (hkey : key ∈ tableKeywords) (fields : Fields) :
    schemasUnder key (.object fields) = fields.map Prod.snd :=
  if_pos hkey

theorem schemasUnder_schema {key : String} (hkey : key = "additionalProperties" ∨ key = "items")
    (fields : Fields) : schemasUnder key (.object fields) = [.object fields] := by
  rcases hkey with rfl | rfl <;> rfl

theorem schemasUnder_schemas {key : String} (hkey : key = "items" ∨ key ∈ Overlay.keywords)
    (items : List Json) : schemasUnder key (.array items) = items :=
  if_pos hkey

/-! ## The relation -/

/-- Values of a keyword that are equal up to the schemas directly under it, all of which
are related. -/
inductive HeldAlike (R : Json → Json → Prop) : Json → Json → String → Prop
  | same {a : Json} {key : String} (h : ∀ c ∈ schemasUnder key a, R c c) : HeldAlike R a a key
  | table {f g : Fields} {key : String} (hkey : key ∈ tableKeywords) (h : TableAlike R f g) :
      HeldAlike R (.object f) (.object g) key
  | schema {f g : Fields} {key : String} (hkey : key = "additionalProperties" ∨ key = "items")
      (h : R (.object f) (.object g)) : HeldAlike R (.object f) (.object g) key
  | schemas {as bs : List Json} {key : String} (hkey : key = "items" ∨ key ∈ Overlay.keywords)
      (h : List.Forall₂ R as bs) : HeldAlike R (.array as) (.array bs) key

variable {R : Json → Json → Prop} {key : String}

theorem ValueAlike.held {a b : Json} (hR : ∀ a, R a a) (h : ValueAlike R key a b)
    (hkey : key ∉ Overlay.keywords) : HeldAlike R a b key := by
  cases h with
  | same a => exact .same fun c _ => hR c
  | table hkey h => exact .table hkey h
  | additional h => exact .schema (.inl rfl) h
  | item h => exact .schema (.inr rfl) h
  | tuple h => exact .schemas (.inl rfl) h
  | branches hmem h => exact absurd hmem hkey

theorem HeldAlike.eq_of_plain {a b : Json} (h : HeldAlike R a b key)
    (hkey : key ∈ plainKeywords) : a = b := by
  have hplain : ∀ key ∈ plainKeywords, key ∉ tableKeywords ∧ key ≠ "additionalProperties"
      ∧ key ≠ "items" ∧ key ∉ Overlay.keywords := by decide
  obtain ⟨htable, hadditional, hitems, hbranches⟩ := hplain key hkey
  cases h with
  | same h => rfl
  | table hmem h => exact (htable hmem).elim
  | schema hmem h => exact (hmem.elim hadditional hitems).elim
  | schemas hmem h => exact (hmem.elim hitems hbranches).elim

namespace Node

/-- Two nodes whose values of some keywords are equal up to the schemas under these,
all of which are related. -/
def ReadsAlike (keys : List String) (R : Json → Json → Prop) (node node' : Node) : Prop :=
  ∀ key ∈ keys, Option.Rel (HeldAlike R · · key) (node.value? key) (node'.value? key)

/-- Two nodes with the same values of all keywords that are read and hold no schemas. -/
def ReadsSame (node node' : Node) : Prop :=
  ∀ key ∈ plainKeywords, node.value? key = node'.value? key

variable {node node' : Node}

theorem readsAlike_of_alike (hR : ∀ a, R a a) (h : FieldsAlike R node.fields node'.fields) :
    ReadsAlike bareKeywords R node node' := by
  intro key hkey
  have hbare : key ∉ Overlay.keywords := by simpa using (List.mem_filter.mp hkey).2
  have hrel : Option.Rel (ValueAlike R key) (node.value? key) (node'.value? key) := h.get? key
  generalize node.value? key = a?, node'.value? key = b? at hrel
  cases hrel with
  | none => exact .none
  | some hab => exact .some (hab.held hR hbare)

theorem ReadsAlike.same (h : ReadsAlike bareKeywords R node node') : ReadsSame node node' := by
  intro key hkey
  have hrel := h key (mem_bareKeywords_of_plain key hkey)
  generalize node.value? key = a?, node'.value? key = b? at hrel
  cases hrel with
  | none => rfl
  | some hab => rw [hab.eq_of_plain hkey]

/-! ## Keywords without schemas -/

namespace ReadsSame

theorem has (h : ReadsSame node node') (hkey : key ∈ plainKeywords) :
    node.has key = node'.has key :=
  congrArg Option.isSome (h key hkey)

theorem flag (h : ReadsSame node node') (hkey : key ∈ plainKeywords) :
    node.flag key = node'.flag key := by
  unfold Node.flag bool?
  rw [h key hkey]

theorem double? (h : ReadsSame node node') (hkey : key ∈ plainKeywords) :
    node.double? key = node'.double? key := by
  unfold Node.double?
  rw [h key hkey]

theorem count? (h : ReadsSame node node') (hkey : key ∈ plainKeywords) :
    node.count? key = node'.count? key := by
  unfold Node.count?
  rw [h key hkey]

theorem string? (h : ReadsSame node node') (hkey : key ∈ plainKeywords) :
    node.string? key = node'.string? key := by
  unfold Node.string?
  rw [h key hkey]

theorem array? (h : ReadsSame node node') (hkey : key ∈ plainKeywords) :
    node.array? key = node'.array? key := by
  unfold Node.array?
  rw [h key hkey]

theorem object? (h : ReadsSame node node') (hkey : key ∈ plainKeywords) :
    node.object? key = node'.object? key := by
  unfold Node.object?
  rw [h key hkey]

theorem bound? (h : ReadsSame node node') (side : Side) :
    node.bound? side = node'.bound? side := by
  have hplain : side.plainKeyword ∈ plainKeywords := by cases side <;> decide
  have hstrict : side.strictKeyword ∈ plainKeywords := by cases side <;> decide
  unfold Node.bound?
  rw [h.double? hplain, h.flag hstrict, h.double? hstrict]

theorem integerRange (h : ReadsSame node node') : node.integerRange = node'.integerRange := by
  unfold Node.integerRange
  rw [h.bound? .lower, h.bound? .upper]

theorem numberRange (h : ReadsSame node node') : node.numberRange = node'.numberRange := by
  unfold Node.numberRange
  rw [h.bound? .lower, h.bound? .upper]

theorem step (h : ReadsSame node node') : node.step = node'.step := by
  unfold Node.step
  rw [h.double? (by decide)]

theorem lengths (h : ReadsSame node node') : node.lengths = node'.lengths := by
  unfold Node.lengths
  rw [h.count? (by decide : "minLength" ∈ plainKeywords),
    h.count? (by decide : "maxLength" ∈ plainKeywords)]

theorem itemCounts (h : ReadsSame node node') (schemas : Nat) :
    node.itemCounts schemas = node'.itemCounts schemas := by
  unfold Node.itemCounts
  rw [h.count? (by decide : "minItems" ∈ plainKeywords),
    h.count? (by decide : "maxItems" ∈ plainKeywords)]

theorem format? (h : ReadsSame node node') : node.format? = node'.format? := by
  unfold Node.format?
  rw [h.string? (by decide)]

end ReadsSame

end Node

end Specimen
