import Mathlib.Algebra.Order.Field.Rat
import Specimen.Proofs.Json.Fields
import Specimen.Schema.Bounds
import Specimen.Schema.PropertyNames
import Specimen.Schema.Sizes
import Specimen.Validation.Values

/-!
# Plain schemas and what they mean

A *plain* schema is one constant, one enumeration, or states its type and
restricts values of that type by bounds, sizes, items and properties only
(`Plain`). What it means for a value to be an instance of such a schema is said
by the kind of the value (`Conforms`), without a look at how samples are made and
how values are validated; both are compared with it.

Fields are those of a document, so no keyword and no property comes twice.
-/

namespace Specimen

/-! ## Sizes -/

/-- What is counted of a string, of an array and of an object. -/
inductive Extent where
  | length
  | items
  | properties

namespace Extent

def leastKeyword : Extent → String
  | length => "minLength"
  | items => "minItems"
  | properties => "minProperties"

def greatestKeyword : Extent → String
  | length => "maxLength"
  | items => "maxItems"
  | properties => "maxProperties"

end Extent

/-! ## Plain schemas -/

/-- The keywords that a plain schema with a type has not: those that restrict
values in ways of their own, or refer to other schemas. -/
def keywordsNotPlain : List String :=
  ["$ref", "enum", "const", "allOf", "anyOf", "oneOf", "exclusiveMinimum", "exclusiveMaximum",
    "multipleOf", "format", "pattern", "uniqueItems", "patternProperties", "dependencies",
    "dependentRequired", "not", "if", "contains", "propertyNames", "additionalItems",
    "prefixItems", "dependentSchemas", "unevaluatedItems", "unevaluatedProperties",
    "contentEncoding", "contentMediaType", "$recursiveRef", "$dynamicRef"]

/-- A schema for items or properties stands in another one. -/
inductive IsInside (fields : Fields) : Json → Prop
  | item {f : Fields} (h : fields.get? "items" = some (.object f)) : IsInside fields (.object f)
  | slot {schemas : List Json} {schema : Json} (h : fields.get? "items" = some (.array schemas))
      (hmem : schema ∈ schemas) : IsInside fields schema
  | property {table : Fields} {name : String} {schema : Json}
      (h : fields.get? "properties" = some (.object table)) (hmem : (name, schema) ∈ table) :
      IsInside fields schema
  | additional {f : Fields} (h : fields.get? "additionalProperties" = some (.object f)) :
      IsInside fields (.object f)

/-- A schema with a type whose restrictions are plain, as far as they can be seen
without a look at the schemas inside. Counts are written as integers of at most 64
bits, for a longer one is not read as an integer. Only a whole document names its
dialect. -/
structure PlainFields (fields : Fields) : Prop where
  nodup : (Fields.names fields).Nodup
  absent : ∀ keyword ∈ keywordsNotPlain, fields.get? keyword = none
  type : (∃ kind : Kind, fields.get? "type" = some (.string kind.name))
    ∨ ∃ kinds : List Kind, kinds ≠ []
        ∧ fields.get? "type" = some (.array (kinds.map fun kind => .string kind.name))
  bound : ∀ (side : Side) (value : Json), fields.get? side.plainKeyword = some value →
    fields.get? "type" = some (.string "integer")
      ∧ ∃ n : Int, value = .number (.int n) ∧ n.natAbs ≤ 2 ^ 53
  count : ∀ (extent : Extent) (keyword : String) (value : Json),
    keyword = extent.leastKeyword ∨ keyword = extent.greatestKeyword →
    fields.get? keyword = some value → ∃ n : Nat, value = .number (.int n) ∧ n ≤ uint64Max
  ordered : ∀ (extent : Extent) (least greatest : Nat),
    fields.get? extent.leastKeyword = some (.number (.int least)) →
    fields.get? extent.greatestKeyword = some (.number (.int greatest)) → least ≤ greatest
  itemsShape : ∀ value, fields.get? "items" = some value →
    (∃ f, value = .object f) ∨ ∃ schemas, value = .array schemas
  propertiesShape : ∀ value, fields.get? "properties" = some value →
    ∃ table, value = .object table ∧ (Fields.names table).Nodup
  requiredShape : ∀ value, fields.get? "required" = some value →
    ∃ names : List String, value = .array (names.map .string)
  required_le : ∀ (names : List String) (most : Nat),
    fields.get? "required" = some (.array (names.map .string)) →
    fields.get? "maxProperties" = some (.number (.int most)) → names.eraseDups.length ≤ most
  required_declared : ∀ names : List String,
    fields.get? "required" = some (.array (names.map .string)) →
    fields.get? "additionalProperties" = some (.bool false) →
    ∀ name ∈ names, ∃ table, fields.get? "properties" = some (.object table)
      ∧ name ∈ Fields.names table
  additionalShape : ∀ value, fields.get? "additionalProperties" = some value →
    (∃ b, value = .bool b) ∨ ∃ f, value = .object f
  dialect : ∀ f : Fields, IsInside fields (.object f) → f.get? "$schema" = none

/-- A plain schema: a constant, an enumeration that is not empty, or a type with
plain restrictions. The number that is a constant is finite. -/
inductive Plain : Json → Prop
  | constant (c : Json) (h : ∀ n, c = .number n → n.toDouble.isFinite = true) :
      Plain (.object [("const", c)])
  | choice (members : List Json) (h : members ≠ []) : Plain (.object [("enum", .array members)])
  | typed {fields : Fields} (h : PlainFields fields)
      (inside : ∀ schema, IsInside fields schema → Plain schema) : Plain (.object fields)

/-! ## Instances -/

/-- Whether a value is of a kind. An integer has to be written as one, which is
what the strictest draft asks for. -/
def Kind.Holds : Kind → Json → Prop
  | null, v => v = .null
  | boolean, v => ∃ b, v = .bool b
  | integer, v => ∃ n, v = .number (.int n)
  | number, v => ∃ n, v = .number n
  | string, v => ∃ s, v = .string s
  | array, v => ∃ items, v = .array items
  | object, v => ∃ members, v = .object members

/-- The value of the keyword for types names a kind, alone or in a list. -/
def NamesKind (value : Json) (kind : Kind) : Prop :=
  value = .string kind.name ∨ ∃ names, value = .array names ∧ .string kind.name ∈ names

/-- The keywords that concern all values. -/
structure AdmitsValue (fields : Fields) (v : Json) : Prop where
  type : ∀ value, fields.get? "type" = some value →
    ∃ kind : Kind, NamesKind value kind ∧ kind.Holds v
  constant : ∀ c, fields.get? "const" = some c → v = c
  choice : ∀ members, fields.get? "enum" = some (.array members) → v ∈ members

/-- The bounds on a number. -/
structure AdmitsNumber (fields : Fields) (n : Number) : Prop where
  minimum : ∀ b, fields.get? "minimum" = some (.number b) → b.toRat ≤ n.toRat
  maximum : ∀ b, fields.get? "maximum" = some (.number b) → n.toRat ≤ b.toRat

/-- The bounds on a size. -/
structure AdmitsSize (extent : Extent) (fields : Fields) (size : Nat) : Prop where
  least : ∀ b, fields.get? extent.leastKeyword = some (.number b) → b.toRat ≤ size
  greatest : ∀ b, fields.get? extent.greatestKeyword = some (.number b) → (size : Rat) ≤ b.toRat

/-- The names under which an object declares no schema. -/
def IsAdditional (fields : Fields) (name : String) : Prop :=
  ∀ table, fields.get? "properties" = some (.object table) → name ∉ Fields.names table

/-- The names that there must and may be. -/
structure AdmitsNames (fields members : Fields) : Prop where
  required : ∀ names name, fields.get? "required" = some (.array names) → .string name ∈ names →
    name ∈ Fields.names members
  closed : fields.get? "additionalProperties" = some (.bool false) → ∀ name,
    IsAdditional fields name → name ∉ Fields.names members

/-- A value is an instance of a plain schema. -/
inductive Conforms : Json → Json → Prop
  | null {fields : Fields} (h : AdmitsValue fields .null) : Conforms (.object fields) .null
  | bool {fields : Fields} {b : Bool} (h : AdmitsValue fields (.bool b)) :
      Conforms (.object fields) (.bool b)
  | number {fields : Fields} {n : Number} (h : AdmitsValue fields (.number n))
      (hbounds : AdmitsNumber fields n) : Conforms (.object fields) (.number n)
  | string {fields : Fields} {s : String} (h : AdmitsValue fields (.string s))
      (hsize : AdmitsSize .length fields s.length) : Conforms (.object fields) (.string s)
  | array {fields : Fields} {items : List Json} (h : AdmitsValue fields (.array items))
      (hsize : AdmitsSize .items fields items.length)
      (item : ∀ f a, fields.get? "items" = some (.object f) → a ∈ items → Conforms (.object f) a)
      (tuple : ∀ (schemas : List Json) (i : Nat) (schema a : Json),
        fields.get? "items" = some (.array schemas) → schemas[i]? = some schema →
        items[i]? = some a → Conforms schema a) : Conforms (.object fields) (.array items)
  | object {fields members : Fields} (h : AdmitsValue fields (.object members))
      (hsize : AdmitsSize .properties fields members.length) (hnames : AdmitsNames fields members)
      (property : ∀ table name schema a, fields.get? "properties" = some (.object table) →
        (name, schema) ∈ table → (name, a) ∈ members → Conforms schema a)
      (additional : ∀ f name a, fields.get? "additionalProperties" = some (.object f) →
        IsAdditional fields name → (name, a) ∈ members → Conforms (.object f) a) :
      Conforms (.object fields) (.object members)

theorem Conforms.admitsValue {fields : Fields} {v : Json} (h : Conforms (.object fields) v) :
    AdmitsValue fields v := by
  cases h <;> assumption

end Specimen
