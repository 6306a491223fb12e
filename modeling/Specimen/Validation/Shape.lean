import Specimen.Validation.TextFormat
import Specimen.Validation.Values

/-!
# Shapes of keywords

What the value of a keyword may be in a draft. A schema is well-formed when the
values of all keywords in it have their shapes, which takes in the schemas below
it; a keyword that a draft does not have may have any value.
-/

namespace Specimen.Validation

/-- What a value may be. -/
inductive Shape where
  | anything
  | boolean
  | string
  /-- A string that some test accepts. -/
  | text (accepts : String → Bool)
  | number
  | positive
  | count
  | list
  /-- A list of different values, one at least. -/
  | choices
  /-- A list of different strings. -/
  | names
  /-- A list of different strings, one at least. -/
  | someNames
  /-- The name of a type. -/
  | kind
  /-- The name of a type or a list of different ones. -/
  | kinds
  | schema
  | schemaOrBoolean
  /-- A list of schemas, one at least. -/
  | schemas
  | schemaOrSchemas
  /-- Schemas under names. -/
  | schemaTable
  /-- Schemas under patterns. -/
  | patternTable
  /-- Lists of names under names. -/
  | namesTable
  /-- Schemas or lists of names under names. -/
  | dependencyTable
  /-- Truth values under addresses. -/
  | flagTable

/-- Whether a number is a count. Only the fourth draft looks at how it is
written. -/
def isCount (d : Draft) (n : Number) : Bool :=
  n.isInteger && (d.isFrom .draft6 || n.isWrittenInteger) && decide (0 ≤ n.toRat)

def isKindName (name : String) : Bool :=
  ["array", "boolean", "integer", "null", "number", "object", "string"].contains name

namespace Shape

/-! ## Parts of shapes -/

/-- Whether truth values have a shape. -/
def takesBool (d : Draft) : Shape → Bool
  | anything | boolean | schemaOrBoolean => true
  | schema | schemaOrSchemas => d.isFrom .draft6
  | _ => false

/-- Whether a number has a shape. -/
def takesNumber (d : Draft) (n : Number) : Shape → Bool
  | anything | number => true
  | positive => decide (0 < n.toRat)
  | count => isCount d n
  | _ => false

/-- Whether a string has a shape. -/
def takesString (s : String) : Shape → Bool
  | anything | string => true
  | text accepts => accepts s
  | kind | kinds => isKindName s
  | _ => false

/-- The shape of the items of a list; none if the list itself has not the right
length or repeats an item. -/
def items? (items : List Json) : Shape → Option Shape
  | anything | list => some anything
  | choices => if !items.isEmpty && areDistinct items then some anything else none
  | names => if areDistinct items then some string else none
  | someNames => if !items.isEmpty && areDistinct items then some string else none
  | kinds => if !items.isEmpty && areDistinct items then some kind else none
  | schemas | schemaOrSchemas => if items.isEmpty then none else some schema
  | _ => none

/-- The shape of the values in a table with some keys; none for what is no table. -/
def values? (d : Draft) (keys : List String) : Shape → Option Shape
  | anything => some anything
  | schemaTable => some schema
  | patternTable =>
    if d = .draft7 && !keys.all (fun key => (SchemaPattern.matcher? key).isSome) then none
    else some schema
  | namesTable => some names
  | flagTable => some boolean
  | _ => none

/-- Whether an object with a shape is a schema. -/
def isSchema : Shape → Bool
  | schema | schemaOrBoolean | schemaOrSchemas => true
  | _ => false

/-! ## Keywords -/

/-- A string that is an address, as far as the draft tells. -/
def address (d : Draft) : Shape :=
  text fun s => d.isFrom .draft2019 || Uri.isAddress false s.toList

/-- A string that is a reference to an address, as far as the draft tells. -/
def reference (d : Draft) : Shape :=
  text fun s => d.isFrom .draft2019 || Uri.isReference false s.toList

/-- An address without a fragment; an empty one may be written. -/
def wholeAddress : Shape :=
  text fun s => (s.toList.dropWhile (· != '#')).length ≤ 1

/-- The name of a place in a document. -/
def placeName (d : Draft) : Shape :=
  text fun s =>
    match s.toList with
    | [] => false
    | c :: rest =>
      (c.isAlpha || (d = .draft2020 && c = '_')) && rest.all fun c =>
        c.isAlphanum || "-._".toList.contains c || (d = .draft2019 && c = ':')

def pattern (d : Draft) : Shape :=
  text fun s => d.isFrom .draft2019 || (SchemaPattern.matcher? s).isSome

/-- The shape of a keyword that all drafts have. -/
def common? (d : Draft) (keyword : String) : Option Shape :=
  match keyword with
  | "title" | "description" | "format" => some string
  | "multipleOf" => some positive
  | "maximum" | "minimum" => some number
  | "maxLength" | "minLength" | "maxItems" | "minItems" | "maxProperties" | "minProperties" =>
    some count
  | "pattern" => some (pattern d)
  | "uniqueItems" => some boolean
  | "definitions" | "properties" => some schemaTable
  | "patternProperties" => some patternTable
  | "dependencies" => some dependencyTable
  | "type" => some kinds
  | "allOf" | "anyOf" | "oneOf" => some schemas
  | "not" => some schema
  | _ => none

/-- The shape of a keyword that only the fourth draft has, or has in this way. -/
def draft4? (keyword : String) : Option Shape :=
  match keyword with
  | "id" | "$schema" => some (address .draft4)
  | "exclusiveMaximum" | "exclusiveMinimum" => some boolean
  | "additionalItems" | "additionalProperties" => some schemaOrBoolean
  | "items" => some schemaOrSchemas
  | "required" => some someNames
  | "enum" => some choices
  | _ => none

/-- The shape of a keyword that drafts from the sixth on have. -/
def fromDraft6? (d : Draft) (keyword : String) : Option Shape :=
  match keyword with
  | "$id" => some (if d.isFrom .draft2019 then wholeAddress else reference d)
  | "$ref" => some (reference d)
  | "$schema" => some (address d)
  | "exclusiveMaximum" | "exclusiveMinimum" => some number
  | "additionalProperties" | "contains" | "propertyNames" => some schema
  | "additionalItems" => if d = .draft2020 then none else some schema
  | "items" => some (if d = .draft2020 then schema else schemaOrSchemas)
  | "required" => some names
  | "enum" => some (if d = .draft6 then choices else list)
  | "examples" => some list
  | _ => none

/-- The shape of a keyword that drafts from the seventh on have. -/
def fromDraft7? (keyword : String) : Option Shape :=
  match keyword with
  | "$comment" | "contentMediaType" | "contentEncoding" => some string
  | "readOnly" | "writeOnly" => some boolean
  | "if" | "then" | "else" => some schema
  | _ => none

/-- The shape of a keyword that the latest two drafts have. -/
def fromDraft2019? (d : Draft) (keyword : String) : Option Shape :=
  match keyword with
  | "$anchor" => some (placeName d)
  | "$recursiveRef" => some string
  | "$recursiveAnchor" => some (if d = .draft2019 then boolean else placeName d)
  | "$dynamicRef" => if d = .draft2020 then some string else none
  | "$dynamicAnchor" => if d = .draft2020 then some (placeName d) else none
  | "$vocabulary" => some flagTable
  | "$defs" | "dependentSchemas" => some schemaTable
  | "prefixItems" => if d = .draft2020 then some schemas else none
  | "unevaluatedItems" | "unevaluatedProperties" | "contentSchema" => some schema
  | "maxContains" | "minContains" => some count
  | "dependentRequired" => some namesTable
  | "deprecated" => some boolean
  | _ => none

/-- The shape of a keyword in a draft. -/
def ofKeyword (d : Draft) (keyword : String) : Shape :=
  let later :=
    if d = .draft4 then draft4? keyword
    else
      (fromDraft6? d keyword).orElse fun _ =>
        (if d.isFrom .draft7 then fromDraft7? keyword else none).orElse fun _ =>
          if d.isFrom .draft2019 then fromDraft2019? d keyword else none
  (later.or (common? d keyword)).getD anything

/-- Whether the keywords of the fourth draft that belong together do so: a bound
is exclusive only if it is there. -/
def arePaired (d : Draft) (fields : Fields) : Bool :=
  d != .draft4 ||
    ((!fields.contains "exclusiveMaximum" || fields.contains "maximum") &&
      (!fields.contains "exclusiveMinimum" || fields.contains "minimum"))

/-! ## Values -/

mutual

/-- Whether a value has a shape. -/
def fits (d : Draft) (shape : Shape) : Json → Bool
  | .null => match shape with
    | anything => true
    | _ => false
  | .bool _ => shape.takesBool d
  | .number n => shape.takesNumber d n
  | .string s => shape.takesString s
  | .array items =>
    match shape.items? items with
    | some item => itemsFit d item items
    | none => false
  | .object fields =>
    if shape.isSchema then arePaired d fields && keywordsFit d fields
    else
      match shape with
      | dependencyTable => dependenciesFit d fields
      | _ =>
        match shape.values? d (Fields.names fields) with
        | some value => valuesFit d value fields
        | none => false

def itemsFit (d : Draft) (shape : Shape) : List Json → Bool
  | [] => true
  | item :: rest => fits d shape item && itemsFit d shape rest

def valuesFit (d : Draft) (shape : Shape) : List (String × Json) → Bool
  | [] => true
  | (_, value) :: rest => fits d shape value && valuesFit d shape rest

/-- Whether every value is a schema or a list of names. -/
def dependenciesFit (d : Draft) : List (String × Json) → Bool
  | [] => true
  | (_, value) :: rest =>
    (match value with
      | .array items =>
        match Shape.items? items (if d = .draft4 then someNames else names) with
        | some item => itemsFit d item items
        | none => false
      | value => fits d schema value) && dependenciesFit d rest

/-- Whether every value has the shape of its keyword. -/
def keywordsFit (d : Draft) : List (String × Json) → Bool
  | [] => true
  | (keyword, value) :: rest => fits d (ofKeyword d keyword) value && keywordsFit d rest

end

/-! ## Schemas below -/

/-- The schemas in a value of a shape. -/
def schemasIn (shape : Shape) (value : Json) : List Json :=
  match shape, value with
  | schema, v | schemaOrBoolean, v => [v]
  | schemas, .array items | schemaOrSchemas, .array items => items
  | schemaOrSchemas, v => [v]
  | schemaTable, .object fields | patternTable, .object fields => fields.map (·.2)
  | dependencyTable, .object fields => (fields.map (·.2)).filter (·.array?.isNone)
  | _, _ => []

end Shape

end Specimen.Validation
