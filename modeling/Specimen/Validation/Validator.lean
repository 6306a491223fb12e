import Specimen.Validation.Library

/-!
# Validation

Whether a value is an instance of a schema. Every keyword has an outcome: whether
it accepts the value, and which properties and items it has looked at. The
keywords for what no other keyword has looked at come last. A schema that rejects
a value has looked at nothing.

One step applies the keywords of one schema to one value and is given what to do
with the schemas below and with the parts of the value. `Library.evaluate` repeats
it down to a depth.
-/

namespace Specimen.Validation

/-! ## Outcomes -/

/-- What a schema or a keyword says of a value. -/
structure Outcome where
  valid : Bool
  /-- The properties that were looked at. -/
  names : List String := []
  /-- The places of the items that were looked at. -/
  items : List Nat := []

namespace Outcome

def pass : Outcome := ⟨true, [], []⟩

def ofBool (b : Bool) : Outcome := ⟨b, [], []⟩

def both (a b : Outcome) : Outcome := ⟨a.valid && b.valid, a.names ++ b.names, a.items ++ b.items⟩

def all (outcomes : List Outcome) : Outcome := outcomes.foldl both pass

/-- The outcome of a whole schema. -/
def settled (o : Outcome) : Outcome := if o.valid then o else ofBool false

/-- Whether a value is accepted, without what was looked at. -/
def only (o : Outcome) : Outcome := ofBool o.valid

end Outcome

/-! ## Keywords without schemas below -/

/-- Whether a value has the type with a name. -/
def hasKind (d : Draft) (name : String) : Json → Bool
  | .null => name = "null"
  | .bool _ => name = "boolean"
  | .number n =>
    name = "number" ||
      (name = "integer" && if d = .draft4 then n.isWrittenInteger else n.isInteger)
  | .string _ => name = "string"
  | .array _ => name = "array"
  | .object _ => name = "object"

/-- The types that the keyword for types names. -/
def kindNames : Json → List String
  | .string name => [name]
  | .array names => names.filterMap Json.string?
  | _ => []

def compareNumber (test : Rat → Rat → Bool) (bound v : Json) : Bool :=
  match bound, v with
  | .number b, .number n => test n.toRat b.toRat
  | _, _ => true

def compareSize (test : Nat → Rat → Bool) (bound : Json) (size : Nat) : Bool :=
  match bound with
  | .number b => test size b.toRat
  | _ => true

def isAtLeast (size : Nat) (bound : Rat) : Bool := bound ≤ size

def isAtMost (size : Nat) (bound : Rat) : Bool := (size : Rat) ≤ bound

/-- Whether an object has all the names in a list. -/
def hasNames (list : Json) (fields : Fields) : Bool :=
  match list with
  | .array names => (names.filterMap Json.string?).all fields.contains
  | _ => true

/-- The bits of a character of the base 64 alphabet. -/
def base64Value? (c : Char) : Option Nat :=
  if 'A' ≤ c ∧ c ≤ 'Z' then some (c.toNat - 'A'.toNat)
  else if 'a' ≤ c ∧ c ≤ 'z' then some (c.toNat - 'a'.toNat + 26)
  else if '0' ≤ c ∧ c ≤ '9' then some (c.toNat - '0'.toNat + 52)
  else if c = '+' then some 62
  else if c = '/' then some 63
  else none

/-- The bytes that a text in base 64 stands for; it is padded to whole groups of
four characters, and bits that fill no byte are zero. -/
def base64Bytes? : List Char → Option (List UInt8)
  | [] => some []
  | [a, b, '=', '='] => do
    let n := (← base64Value? a) * 64 + (← base64Value? b)
    if n % 16 = 0 then some [.ofNat (n / 16)] else none
  | [a, b, c, '='] => do
    let n := ((← base64Value? a) * 64 + (← base64Value? b)) * 64 + (← base64Value? c)
    if n % 4 = 0 then some [.ofNat (n / 1024), .ofNat (n / 4 % 256)] else none
  | a :: b :: c :: d :: rest => do
    let n := (((← base64Value? a) * 64 + (← base64Value? b)) * 64 + (← base64Value? c)) * 64 +
      (← base64Value? d)
    return .ofNat (n / 65536) :: .ofNat (n / 256 % 256) :: .ofNat (n % 256) :: (← base64Bytes? rest)
  | _ => none

/-- Whether a string holds what the keywords for contents say. -/
def holdsContent (d : Draft) (fields : Fields) (text : String) : Bool :=
  if d = .draft6 ∨ d = .draft7 then
    let encoded := (fields.get? "contentEncoding").bind Json.string? = some "base64"
    let isDocument :=
      (fields.get? "contentMediaType").bind Json.string? = some "application/json"
    if encoded then
      match base64Bytes? text.toList with
      | none => false
      | some bytes =>
        !isDocument || ((String.fromUTF8? bytes.toByteArray).bind Json.read?).isSome
    else !isDocument || (Json.read? text).isSome
  else true

/-- Whether a keyword without schemas below accepts a value. -/
def accepts (d : Draft) (fields : Fields) (keyword : String) (value v : Json) : Bool :=
  match keyword, v with
  | "type", v => (kindNames value).any (hasKind d · v)
  | "enum", v => (value.array?.getD []).any (equal · v)
  | "const", v => !d.isFrom .draft6 || isConstant value v
  | "minimum", v =>
    if d = .draft4 && fields.get? "exclusiveMinimum" matches some (.bool true) then
      compareNumber (fun n b => b < n) value v
    else compareNumber (fun n b => b ≤ n) value v
  | "maximum", v =>
    if d = .draft4 && fields.get? "exclusiveMaximum" matches some (.bool true) then
      compareNumber (fun n b => n < b) value v
    else compareNumber (fun n b => n ≤ b) value v
  | "exclusiveMinimum", v => d = .draft4 || compareNumber (fun n b => b < n) value v
  | "exclusiveMaximum", v => d = .draft4 || compareNumber (fun n b => n < b) value v
  | "multipleOf", .number n =>
    match value with
    | .number step => isMultiple n step
    | _ => true
  | "minLength", .string s => compareSize isAtLeast value s.length
  | "maxLength", .string s => compareSize isAtMost value s.length
  | "pattern", .string s => value.string?.all fun pattern => SchemaPattern.isFound pattern s
  | "format", .string s => value.string?.all fun name => TextFormat.accepts d name s
  | "contentEncoding", .string s => holdsContent d fields s
  | "contentMediaType", .string s => holdsContent d fields s
  | "minItems", .array items => compareSize isAtLeast value items.length
  | "maxItems", .array items => compareSize isAtMost value items.length
  | "uniqueItems", .array items => !(value matches .bool true) || areDistinct items
  | "minProperties", .object members => compareSize isAtLeast value members.length
  | "maxProperties", .object members => compareSize isAtMost value members.length
  | "required", .object members => hasNames value members
  | "dependentRequired", .object members =>
    !d.isFrom .draft2019 || ((value.object?.getD []).all fun (name, names) =>
      !Fields.contains members name || hasNames names members)
  | _, _ => true

/-! ## Keywords with schemas below -/

section Step

variable (lib : Library) (down : Located → Json → Outcome) (l : Located) (fields : Fields)

/-- The outcome of a schema below for the same value or a part of it. -/
def Located.apply (schema v : Json) : Outcome := down (l.child schema) v

/-- The outcome of a reference. -/
def followed (reference : String) (v : Json) : Outcome :=
  match lib.target? l reference with
  | some (.schema target) => down target v
  | some (.metaSchema d) => .ofBool (Shape.fits d .schema v)
  | none => .ofBool false

/-- The outcome of several schemas for the same value. -/
def branches (value v : Json) : List Outcome :=
  (value.array?.getD []).map fun schema => l.apply down schema v

def anyOf (outcomes : List Outcome) : Outcome :=
  if outcomes.any (·.valid) then .all (outcomes.filter (·.valid)) else .ofBool false

def oneOf (outcomes : List Outcome) : Outcome :=
  match outcomes.filter (·.valid) with
  | [o] => o
  | _ => .ofBool false

/-- The outcome of a condition, with the branch that it selects. -/
def conditional (condition v : Json) : Outcome :=
  let test := l.apply down condition v
  let branch (keyword : String) : Outcome :=
    match fields.get? keyword with
    | some schema => l.apply down schema v
    | none => .pass
  if test.valid then test.both (branch "then") else branch "else"

/-- The outcome of a schema for the members with some names, which it looks at. -/
def forMembers (schema : Json) (members : Fields) : Outcome :=
  .all (members.map fun (name, v) => ⟨(l.apply down schema v).valid, [name], []⟩)

/-- The outcome of a schema for the items from a place on, which it looks at. -/
def forItems (schema : Json) (start : Nat) (items : List Json) : Outcome :=
  .all ((items.zipIdx.drop start).map fun (v, i) => ⟨(l.apply down schema v).valid, [], [i]⟩)

/-- The outcome of schemas for the items in their places. -/
def forTuple (schemas items : List Json) : Outcome :=
  .all ((schemas.zip items.zipIdx).map fun (schema, v, i) =>
    ⟨(l.apply down schema v).valid, [], [i]⟩)

/-- Whether a member is declared by its name or by a pattern. -/
def isDeclared (name : String) : Bool :=
  (((fields.get? "properties").bind Json.object?).getD []).any (·.1 = name) ||
    (((fields.get? "patternProperties").bind Json.object?).getD []).any fun (pattern, _) =>
      SchemaPattern.isFound pattern name

/-- The outcome of a keyword that concerns the members of an object. -/
def memberOutcome (keyword : String) (value : Json) (members : Fields) : Outcome :=
  let table := value.object?.getD []
  match keyword with
  | "properties" =>
    .all (table.map fun (name, schema) => forMembers down l schema (members.filter (·.1 = name)))
  | "patternProperties" =>
    .all (table.map fun (pattern, schema) =>
      forMembers down l schema (members.filter fun (name, _) => SchemaPattern.isFound pattern name))
  | "additionalProperties" =>
    forMembers down l value (members.filter fun (name, _) => !isDeclared fields name)
  | "propertyNames" =>
    if l.draft.isFrom .draft6 then
      .all (members.map fun (name, _) => (l.apply down value (.string name)).only)
    else .pass
  | "dependentSchemas" =>
    if l.draft.isFrom .draft2019 then
      .all (table.map fun (name, schema) =>
        if members.contains name then l.apply down schema (.object members) else .pass)
    else .pass
  | "dependencies" =>
    .all (table.map fun (name, dependency) =>
      if members.contains name then
        match dependency with
        | .array names => .ofBool (hasNames (.array names) members)
        | schema => l.apply down schema (.object members)
      else .pass)
  | _ => .pass

/-- How many items a keyword asks to be contained. -/
def containCount (keyword : String) : Option Rat :=
  if l.draft.isFrom .draft2019 then
    match fields.get? keyword with
    | some (.number n) => some n.toRat
    | _ => none
  else none

/-- The outcome of the keyword for items that must be among the items. -/
def containsOutcome (value : Json) (items : List Json) : Outcome :=
  let found := items.zipIdx.filter fun (v, _) => (l.apply down value v).valid
  let count : Rat := found.length
  let enough := ((containCount l fields "minContains").getD 1) ≤ count
  let fewEnough := (containCount l fields "maxContains").all fun bound => count ≤ bound
  ⟨enough && fewEnough, [], if l.draft.isFrom .draft2020 then found.map (·.2) else []⟩

/-- The outcome of a keyword that concerns the items of an array. -/
def itemOutcome (keyword : String) (value : Json) (items : List Json) : Outcome :=
  match keyword with
  | "prefixItems" =>
    if l.draft.isFrom .draft2020 then forTuple down l (value.array?.getD []) items else .pass
  | "items" =>
    if l.draft.isFrom .draft2020 then
      let start := (((fields.get? "prefixItems").bind Json.array?).getD []).length
      forItems down l value start items
    else
      match value with
      | .array schemas => forTuple down l schemas items
      | schema => forItems down l schema 0 items
  | "additionalItems" =>
    if l.draft.isFrom .draft2020 then .pass
    else
      match fields.get? "items" with
      | some (.array schemas) => forItems down l value schemas.length items
      | _ => .pass
  | "contains" =>
    if l.draft.isFrom .draft6 then containsOutcome down l fields value items else .pass
  | _ => .pass

/-- The outcome of one keyword. -/
def keywordOutcome (keyword : String) (value v : Json) : Outcome :=
  let here := Outcome.ofBool (accepts l.draft fields keyword value v)
  let below : Outcome :=
    match keyword with
    | "$ref" => value.string?.elim .pass fun reference => followed lib down l reference v
    | "$recursiveRef" =>
      if l.draft = .draft2019 then
        value.string?.elim .pass fun reference => followed lib down l reference v
      else .pass
    | "$dynamicRef" =>
      if l.draft = .draft2020 then
        value.string?.elim .pass fun reference => followed lib down l reference v
      else .pass
    | "allOf" => .all (branches down l value v)
    | "anyOf" => anyOf (branches down l value v)
    | "oneOf" => oneOf (branches down l value v)
    | "not" => .ofBool (!(l.apply down value v).valid)
    | "if" => if l.draft.isFrom .draft7 then conditional down l fields value v else .pass
    | keyword =>
      match v with
      | .array items => itemOutcome down l fields keyword value items
      | .object members => memberOutcome down l fields keyword value members
      | _ => .pass
  here.both below

/-- The outcome of the keywords for what no other keyword has looked at. -/
def restOutcome (seen : Outcome) (v : Json) : Outcome :=
  if l.draft.isFrom .draft2019 then
    match v with
    | .array items =>
      match fields.get? "unevaluatedItems" with
      | some schema =>
        .all ((items.zipIdx.filter fun (_, i) => !seen.items.contains i).map fun (v, i) =>
          ⟨(l.apply down schema v).valid, [], [i]⟩)
      | none => .pass
    | .object members =>
      match fields.get? "unevaluatedProperties" with
      | some schema =>
        forMembers down l schema (members.filter fun (name, _) => !seen.names.contains name)
      | none => .pass
    | _ => .pass
  else .pass

/-- The outcome of a schema, given the outcomes of schemas below. -/
def stepOutcome (v : Json) : Outcome :=
  match l.schema with
  | .bool b => .ofBool b
  | .object fields =>
    match l.draft.refStandsAlone, l.string? "$ref" with
    | true, some reference => (followed lib down l reference v).settled
    | _, _ =>
      let seen := Outcome.all (fields.map fun (keyword, value) =>
        keywordOutcome lib down l fields keyword value v)
      (seen.both (restOutcome down l fields seen v)).settled
  | _ => .ofBool false

end Step

/-- The outcome of a schema for a value, in a descent of at most the given depth;
below it every value is accepted. -/
def Library.evaluate (lib : Library) : Nat → Located → Json → Outcome
  | 0 => fun _ _ => .pass
  | depth + 1 => stepOutcome lib (evaluate lib depth)

/-! ## Schemas that can be used -/

namespace Library

/-- The keywords whose schemas count only where they are referred to. -/
def isShelf (keyword : String) : Bool :=
  keyword = "definitions" || keyword = "$defs" || keyword = "contentSchema"

/-- The references of a schema. -/
def references (l : Located) : List String :=
  let keywords :=
    if l.draft = .draft2020 then ["$ref", "$dynamicRef"]
    else if l.draft = .draft2019 then ["$ref", "$recursiveRef"]
    else ["$ref"]
  keywords.filterMap l.string?

/-- The schemas directly below a schema that are used with it. -/
def usedChildren (l : Located) : List Located :=
  if l.draft.refStandsAlone && (l.string? "$ref").isSome then []
  else (l.childrenByKeyword.filter fun (keyword, _) => !isShelf keyword).map (·.2)

/-- Whether the patterns of a schema are well-formed. -/
def arePatternsSound (l : Located) : Bool :=
  match l.schema with
  | .object fields =>
    if l.draft.refStandsAlone && (l.string? "$ref").isSome then true
    else
      (l.string? "pattern").all (fun p => (SchemaPattern.matcher? p).isSome) &&
        (((Fields.get? fields "patternProperties").bind Json.object?).getD []).all fun (p, _) =>
          (SchemaPattern.matcher? p).isSome
  | _ => true

/-- Whether the schemas in `work` and all that are used with them can be used:
their references lead to well-formed schemas and their patterns are well-formed.
`met` holds the references that have been followed. -/
def areUsable (lib : Library) : Nat → List (Uri × String) → List Located → Bool
  | _, _, [] => true
  | 0, _, _ => true
  | fuel + 1, met, l :: work =>
    let new := (references l).filter fun reference => !met.contains (l.base, reference)
    let targets := new.map (lib.target? l)
    let schemas := targets.filterMap fun
      | some (.schema target) => some target
      | _ => none
    arePatternsSound l && targets.all Option.isSome &&
      schemas.all (fun target => Shape.fits target.draft .schema target.schema) &&
      areUsable lib fuel (new.map (fun reference => (l.base, reference)) ++ met)
        (usedChildren l ++ schemas ++ work)

/-- Whether all references in a document stay in it. -/
def isClosed (lib : Library) : Bool :=
  lib.schemas.all fun l =>
    (l.string? "$ref").all (lib.isInternal l) &&
      (l.string? "$schema").all (fun address => (Draft.ofAddress? address).isSome)

end Library

/-- A schema that values can be tested against. -/
structure Validator where
  root : Located
  library : Library

namespace Validator

/-- The validator of a document, if it is a schema that can be used without
others. -/
def ofDocument? (document : Json) : Option Validator := do
  let draft ← Draft.ofDocument? document
  let root := Located.root draft document
  let library := Library.ofRoot root
  let size := valueCount document
  if library.isClosed && Shape.fits draft .schema document &&
      library.areUsable ((size + 1) * (size + 1)) [] [root] then
    some ⟨root, library⟩
  else none

/-- Whether a value is an instance of the schema. Between two steps into a value
no schema is met twice, so the descent is no deeper than the product of the two
sizes. -/
def accepts (validator : Validator) (v : Json) : Bool :=
  let depth := (valueCount validator.root.schema + 1) * (valueCount v + 1)
  (validator.library.evaluate depth validator.root v).valid

end Validator

end Specimen.Validation
