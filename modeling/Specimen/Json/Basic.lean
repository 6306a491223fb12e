import Specimen.Double

/-!
# Documents

A document is a JSON value. Numbers keep the distinction their literals make:
one without a fraction or an exponent is an integer and the others are floating
point, so `1` and `1.0` are different documents. The fields of an object are
listed in the order of their names and every name occurs once
(`Json.normalize`); this is the order in which fields are visited and printed.
-/

namespace Specimen

/-- A number in a document. -/
inductive Number where
  | int (n : Int)
  | float (x : Double)
deriving DecidableEq, Inhabited

/-- A document. -/
inductive Json where
  | null
  | bool (b : Bool)
  | number (n : Number)
  | string (s : String)
  | array (items : List Json)
  | object (fields : List (String × Json))
deriving Inhabited

/-- The fields of an object, in the order of their names. -/
abbrev Fields := List (String × Json)

/-! ## Numbers -/

namespace Number

/-- The nearest floating-point number. -/
def toDouble : Number → Double
  | int n => .ofInt n
  | float x => x

/-- Whether two numbers are equal documents: an integer never equals a
floating-point number, and the two zeros of the latter are equal. -/
def same : Number → Number → Bool
  | int m, int n => m == n
  | float x, float y => x.same y
  | _, _ => false

end Number

/-! ## Fields -/

namespace Fields

/-- The value of the named field. -/
def get? (fields : Fields) (name : String) : Option Json :=
  match fields with
  | [] => none
  | (key, value) :: rest => if key = name then some value else get? rest name

/-- The fields with `name` set to `value`, in its place in the order. -/
def insert (name : String) (value : Json) : Fields → Fields
  | [] => [(name, value)]
  | (key, old) :: rest =>
    if name < key then (name, value) :: (key, old) :: rest
    else if name = key then (name, value) :: rest
    else (key, old) :: insert name value rest

/-- Fields in the order of their names; of two with one name the later counts. -/
def ofList (fields : List (String × Json)) : Fields :=
  fields.foldl (fun ordered field => insert field.1 field.2 ordered) []

def names (fields : Fields) : List String := fields.map (·.1)

def contains (fields : Fields) (name : String) : Bool := (fields.get? name).isSome

end Fields

/-! ## Documents -/

namespace Json

/-- The name of a document's type in messages. -/
def typeName : Json → String
  | null => "null"
  | bool _ => "boolean"
  | number _ => "number"
  | string _ => "string"
  | array _ => "array"
  | object _ => "object"

def bool? : Json → Option Bool
  | bool b => some b
  | _ => none

def number? : Json → Option Number
  | number n => some n
  | _ => none

def string? : Json → Option String
  | string s => some s
  | _ => none

def array? : Json → Option (List Json)
  | array items => some items
  | _ => none

def object? : Json → Option Fields
  | object fields => some fields
  | _ => none

def isObject (d : Json) : Bool := d.object?.isSome

mutual

/-- The document with the fields of every object in order. -/
def normalize : Json → Json
  | array items => array (normalizeItems items)
  | object fields => object (Fields.ofList (normalizeFields fields))
  | other => other

def normalizeItems : List Json → List Json
  | [] => []
  | item :: rest => normalize item :: normalizeItems rest

def normalizeFields : List (String × Json) → List (String × Json)
  | [] => []
  | (name, value) :: rest => (name, normalize value) :: normalizeFields rest

end

mutual

/-- Whether two documents are equal, number by number. -/
def same : Json → Json → Bool
  | null, null => true
  | bool a, bool b => a == b
  | number a, number b => a.same b
  | string a, string b => a == b
  | array a, array b => sameItems a b
  | object a, object b => sameFields a b
  | _, _ => false

def sameItems : List Json → List Json → Bool
  | [], [] => true
  | a :: as, b :: bs => same a b && sameItems as bs
  | _, _ => false

def sameFields : List (String × Json) → List (String × Json) → Bool
  | [], [] => true
  | (name, a) :: as, (other, b) :: bs => name == other && same a b && sameFields as bs
  | _, _ => false

end

end Json

end Specimen
