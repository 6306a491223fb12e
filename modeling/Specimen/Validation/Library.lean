import Specimen.Digits
import Specimen.Json.Pointer
import Specimen.Json.Reader
import Specimen.Validation.Shape

/-!
# Schemas and references

A document holds schemas in many places, and some of them are documents of their
own: they have an address, and pointers below them start from them. A reference
is resolved at the address of the schema around it. All schemas of a document
with their places are its `Library`.
-/

namespace Specimen.Validation

/-- A schema in its place. -/
structure Located where
  schema : Json
  draft : Draft
  /-- The schema around it that pointers start from. -/
  resource : Json
  /-- The address of that schema. -/
  base : Uri
  /-- Whether the schema is the one that pointers start from. -/
  isResource : Bool

namespace Located

/-- The address that a schema gives itself. In the older drafts a reference beside
it hides it, and a mere fragment is no address. -/
def ownAddress? (d : Draft) (fields : Fields) : Option (List Char) :=
  if d.refStandsAlone && fields.contains "$ref" then none
  else
    match fields.get? d.idKeyword with
    | some (.string id) => if id.toList.head? = some '#' then none else some id.toList
    | _ => none

/-- The draft of a schema among schemas of another draft. -/
def draftOf (d : Draft) (fields : Fields) : Draft :=
  match fields.get? "$schema" with
  | some (.string address) => (Draft.ofAddress? address).getD .draft2020
  | _ => d

/-- A schema below another one. -/
def child (l : Located) (schema : Json) : Located :=
  match schema with
  | .object fields =>
    let draft := draftOf l.draft fields
    match ownAddress? draft fields with
    | some address =>
      ⟨schema, draft, schema, (l.base.resolve (.ofText address)).withoutFragment, true⟩
    | none => ⟨schema, draft, l.resource, l.base, false⟩
  | schema => ⟨schema, l.draft, l.resource, l.base, false⟩

/-- The address of a document that has none. -/
def defaultBase : Uri := .ofText "json-schema:///".toList

/-- The schema that is a whole document. -/
def root (d : Draft) (document : Json) : Located :=
  let base := match document with
    | .object fields =>
      match ownAddress? d fields with
      | some address => (defaultBase.resolve (.ofText address)).withoutFragment
      | none => defaultBase
    | _ => defaultBase
  ⟨document, d, document, base, true⟩

/-- The schemas directly below, with the keywords that they stand under. -/
def childrenByKeyword (l : Located) : List (String × Located) :=
  match l.schema with
  | .object fields =>
    fields.flatMap fun (keyword, value) =>
      ((Shape.ofKeyword l.draft keyword).schemasIn value).map fun schema =>
        (keyword, l.child schema)
  | _ => []

def children (l : Located) : List Located := l.childrenByKeyword.map (·.2)

/-- The string under a keyword. -/
def string? (l : Located) (keyword : String) : Option String :=
  match l.schema with
  | .object fields => (Fields.get? fields keyword).bind Json.string?
  | _ => none

/-- The names that a schema gives its place. -/
def anchors (l : Located) : List (List Char) :=
  let named (keyword : String) := (l.string? keyword).toList.map String.toList
  let fragment := (named l.draft.idKeyword).filterMap fun
    | '#' :: name => if l.draft.refStandsAlone then some name else none
    | _ => none
  fragment ++ (if l.draft.isFrom .draft2019 then named "$anchor" else []) ++
    (if l.draft.isFrom .draft2020 then named "$dynamicAnchor" else [])

end Located

/-! ## Size -/

mutual

/-- How many values there are in a document. -/
def valueCount : Json → Nat
  | .array items => 1 + valueCountItems items
  | .object fields => 1 + valueCountFields fields
  | _ => 1

def valueCountItems : List Json → Nat
  | [] => 0
  | item :: rest => valueCount item + valueCountItems rest

def valueCountFields : List (String × Json) → Nat
  | [] => 0
  | (_, value) :: rest => valueCount value + valueCountFields rest

end

/-! ## Libraries -/

/-- All schemas of a document. -/
structure Library where
  schemas : List Located

namespace Library

/-- A schema and the schemas below it, down to a given depth. -/
def gather : Nat → Located → List Located
  | 0, _ => []
  | depth + 1, l => l :: l.children.flatMap (gather depth)

def ofRoot (root : Located) : Library := ⟨gather (valueCount root.schema) root⟩

/-- The schema with an address. -/
def at? (lib : Library) (address : Uri) : Option Located :=
  lib.schemas.find? fun l => l.isResource && l.base = address

/-! ## Fragments -/

/-- The bytes of a text in which percent signs stand before hexadecimal digits. -/
def percentBytes : List Char → List UInt8
  | [] => []
  | '%' :: a :: b :: rest =>
    match Digits.hexValue? a, Digits.hexValue? b with
    | some high, some low => UInt8.ofNat (16 * high + low) :: percentBytes rest
    | _, _ => 37 :: percentBytes (a :: b :: rest)
  | c :: rest => (String.singleton c).toUTF8.toList ++ percentBytes rest
termination_by text => text.length

/-- The text that a fragment of an address stands for. -/
def decodeFragment? (fragment : List Char) : Option (List Char) :=
  (String.fromUTF8? (percentBytes fragment).toByteArray).map String.toList

/-- The index that a step of a pointer denotes. -/
def index? (step : List Char) : Option Nat :=
  let digits := match step with
    | '+' :: rest => rest
    | digits => digits
  if digits.isEmpty || !digits.all Char.isDigit then none
  else some (Digits.decimal digits)

/-- The schema at the end of the steps of a pointer. -/
def follow? (l : Located) : List (List Char) → Option Located
  | [] => some l
  | step :: rest =>
    match l.schema with
    | .array items =>
      match (index? step).bind (items[·]?) with
      | some item => follow? (l.child item) rest
      | none => none
    | .object fields =>
      match Fields.get? fields (.ofList (Pointer.unescape step)) with
      | some value => follow? (l.child value) rest
      | none => none
    | _ => none

/-- The schema that a fragment names in a resource. -/
def within? (lib : Library) (r : Located) (fragment : List Char) : Option Located :=
  match fragment with
  | [] => some r
  | '/' :: pointer => (decodeFragment? pointer).bind fun text => follow? r (pieces '/' text)
  | name => lib.schemas.find? fun l => l.base = r.base && l.anchors.contains name

/-! ## References -/

/-- What a reference leads to. -/
inductive Target where
  | schema (l : Located)
  /-- The schema of all schemas of a draft. -/
  | metaSchema (d : Draft)

/-- Whether a reference starts with the address of a known draft. -/
def isKnown (reference : String) : Bool :=
  Draft.all.any fun d =>
    ((d.address.toList.reverse.dropWhile (· != '/')).reverse).isPrefixOf reference.toList

/-- What a reference in a schema leads to. -/
def target? (lib : Library) (l : Located) (reference : String) : Option Target :=
  match reference.toList with
  | '#' :: fragment =>
    let resource : Located := ⟨l.resource, l.draft, l.resource, l.base, true⟩
    (lib.within? resource fragment).map .schema
  | text =>
    let u := l.base.resolve (.ofText text)
    let address := u.withoutFragment
    match lib.at? address with
    | some r => (lib.within? r (u.fragment.getD [])).map .schema
    | none => (Draft.ofAddress? (.ofList address.toText)).map .metaSchema

/-- Whether a reference stays in the document or leads to a known draft. -/
def isInternal (lib : Library) (l : Located) (reference : String) : Bool :=
  isKnown reference || reference = "#" ||
    (Uri.isReference false reference.toList &&
      (reference.toList.head? = some '#' ||
        (lib.at? (l.base.resolve (.ofText reference.toList)).withoutFragment).isSome))

end Library

end Specimen.Validation
