import Specimen.Schema.Error

/-!
# Kinds and string formats

The seven types that a schema may ask for and the nine string formats that a
sample can be given. Both are closed: a name outside them is an error.
-/

namespace Specimen

/-- A type that a schema may ask for. -/
inductive Kind where
  | null
  | boolean
  | integer
  | number
  | string
  | array
  | object
deriving DecidableEq

namespace Kind

/-- All kinds, in the order in which a kind is drawn. -/
def all : List Kind := [null, boolean, integer, number, string, array, object]

def name : Kind → String
  | null => "null"
  | boolean => "boolean"
  | integer => "integer"
  | number => "number"
  | string => "string"
  | array => "array"
  | object => "object"

/-- The kind with a given name. -/
def ofName (name : String) : Except SchemaError Kind :=
  match all.find? (·.name = name) with
  | some kind => .ok kind
  | none => .error (.unsupportedType name)

/-- The smallest schema that asks for the kind. -/
def toSchema (kind : Kind) : Json := .object [("type", .string kind.name)]

end Kind

/-- A string format that a sample can be given. -/
inductive Format where
  | dateTime
  | date
  | time
  | email
  | hostname
  | ipv4
  | ipv6
  | uri
  | uuid
deriving DecidableEq

namespace Format

def all : List Format := [dateTime, date, time, email, hostname, ipv4, ipv6, uri, uuid]

def name : Format → String
  | dateTime => "date-time"
  | date => "date"
  | time => "time"
  | email => "email"
  | hostname => "hostname"
  | ipv4 => "ipv4"
  | ipv6 => "ipv6"
  | uri => "uri"
  | uuid => "uuid"

/-- The format with a given name. -/
def ofName (name : String) : Except SchemaError Format :=
  match all.find? (·.name = name) with
  | some format => .ok format
  | none => .error (.unsupportedFormat name)

end Format

end Specimen
