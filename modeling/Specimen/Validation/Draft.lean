import Specimen.Json.Basic

/-!
# Drafts

Schemas are written in one of five drafts of JSON Schema. A document names its
draft by an address in `$schema`, and the latest one is meant where it does not.
-/

namespace Specimen.Validation

/-- A draft of JSON Schema. -/
inductive Draft where
  | draft4
  | draft6
  | draft7
  | draft2019
  | draft2020
deriving DecidableEq

namespace Draft

/-- The place of a draft in their order. -/
def rank : Draft → Nat
  | draft4 => 4
  | draft6 => 6
  | draft7 => 7
  | draft2019 => 8
  | draft2020 => 9

/-- Whether a draft is `other` or a later one. -/
def isFrom (d other : Draft) : Bool := other.rank ≤ d.rank

/-- Whether a reference stands alone, so that the keywords beside it do not
count. -/
def refStandsAlone (d : Draft) : Bool := !d.isFrom draft2019

/-- The address that names a draft. -/
def address : Draft → String
  | draft4 => "http://json-schema.org/draft-04/schema"
  | draft6 => "http://json-schema.org/draft-06/schema"
  | draft7 => "http://json-schema.org/draft-07/schema"
  | draft2019 => "https://json-schema.org/draft/2019-09/schema"
  | draft2020 => "https://json-schema.org/draft/2020-12/schema"

def all : List Draft := [draft4, draft6, draft7, draft2019, draft2020]

/-- The draft with an address, which may end with an empty fragment. -/
def ofAddress? (text : String) : Option Draft :=
  let address : String := .ofList (text.toList.reverse.dropWhile (· = '#')).reverse
  all.find? (·.address = address)

/-- The draft of a document; none if it names a draft that is not known. -/
def ofDocument? : Json → Option Draft
  | .object fields =>
    match Fields.get? fields "$schema" with
    | some (.string address) => ofAddress? address
    | _ => some draft2020
  | _ => some draft2020

/-- The keyword whose value is the address of a schema. -/
def idKeyword (d : Draft) : String := if d = draft4 then "id" else "$id"

end Draft

end Specimen.Validation
