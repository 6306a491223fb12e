import Specimen.Json.Printer
import Specimen.Path
import Specimen.FileTree

/-!
# Failures

Everything that can stop a sample from being made, as a cause with the data that
its message needs. The wording is in `SchemaError.message` alone.
-/

namespace Specimen

/-- A regular expression that cannot be used, with the reason. -/
structure PatternError where
  pattern : String
  reason : String
deriving DecidableEq

namespace PatternError

def message (e : PatternError) : String :=
  "invalid pattern `" ++ e.pattern ++ "`: " ++ e.reason

end PatternError

/-- Why a reference leads nowhere. -/
inductive ReferenceFailure where
  /-- A pointer into the enclosing schema where there is none. -/
  | noEnclosingSchema
  /-- A pointer that names nothing. -/
  | noTarget
  /-- A pointer that names nothing in the document at a path. -/
  | noTargetIn (document : Path)
  | noFile (path : Path)
  | unreadable (reason : ReadFailure)
  | unregistered
  | noSchemaFile

namespace ReferenceFailure

def message : ReferenceFailure → String
  | noEnclosingSchema => "inline reference outside of any enclosing schema"
  | noTarget => "pointer names no schema"
  | noTargetIn document => "pointer names no schema in " ++ document.text
  | noFile path => "no schema file at " ++ path.text
  | unreadable reason => "cannot read file: " ++ reason.message
  | unregistered => "no document registered"
  | noSchemaFile => "schema file not found"

end ReferenceFailure

/-- The two languages that documents are written in. -/
inductive Dialect where
  | json
  | yaml
deriving DecidableEq

def Dialect.name : Dialect → String
  | .json => "JSON"
  | .yaml => "YAML"

/-- Why a schema cannot be followed. -/
inductive SchemaDefect where
  /-- Something other than an object stands where a schema is expected. -/
  | notObject (typeName : String)
  | unparsable (path : Path) (dialect : Dialect)
  | noInteger (lo hi : Int)
  | noNumber (lo : Double) (loStrict : Bool) (hi : Double) (hiStrict : Bool)
  | noMultiple (step lo hi : Double)
  | referenceNotString (node : Json)
  | enumEmpty (node : Json)
  | notFinite (x : Double)
  /-- A closed object that needs more names than it declares. -/
  | namesExhausted (least missing : Nat)
  /-- A closed object whose patterns kept giving the names it already has. -/
  | namesRepeated (found least : Nat)

namespace SchemaDefect

private def numberText (x : Double) : String := Decimal.Layout.message.write x

def message : SchemaDefect → String
  | notObject typeName => "expected a schema object, got " ++ typeName
  | unparsable path dialect => path.text ++ ": invalid " ++ dialect.name
  | noInteger lo hi =>
    "no integer satisfies the bounds [" ++ toString lo ++ ", " ++ toString hi ++ "]"
  | noNumber lo loStrict hi hiStrict =>
    "no number satisfies the bounds " ++ (if loStrict then ">" else ">=") ++ " " ++ numberText lo ++
      " and " ++ (if hiStrict then "<" else "<=") ++ " " ++ numberText hi
  | noMultiple step lo hi =>
    "no multiple of " ++ numberText step ++ " lies in [" ++ numberText lo ++ ", " ++
      numberText hi ++ "]"
  | referenceNotString node => "$ref must be a string: " ++ node.compact
  | enumEmpty node => "enum must be a non-empty array: " ++ node.compact
  | notFinite x => "generated number " ++ numberText x ++ " is not finite"
  | namesExhausted least missing =>
    "minProperties " ++ toString least ++ " needs " ++ toString missing ++
      " more names, but additionalProperties is false and no patternProperties are declared"
  | namesRepeated found least =>
    "patternProperties produced only " ++ toString found ++ " distinct names, minProperties is " ++
      toString least

end SchemaDefect

/-- Why no sample was made. -/
inductive SchemaError where
  | missingType (node : Json)
  | unsupportedType (value : String)
  | unsupportedFormat (value : String)
  | invalidItems (typeName : String)
  | unresolvable (reference : String) (reason : ReferenceFailure)
  | malformed (defect : SchemaDefect)
  | pattern (e : PatternError)

namespace SchemaError

/-- The kinds of failure that callers tell apart. -/
inductive Category where
  | missingType
  | unsupportedType
  | invalidItems
  | unresolvableReference
  | malformedSchema
  | pattern
deriving DecidableEq

def category : SchemaError → Category
  | missingType _ => .missingType
  | unsupportedType _ => .unsupportedType
  | unsupportedFormat _ => .unsupportedType
  | invalidItems _ => .invalidItems
  | unresolvable _ _ => .unresolvableReference
  | malformed _ => .malformedSchema
  | pattern _ => .pattern

def message : SchemaError → String
  | missingType node => "schema has no `type`: " ++ node.compact
  | unsupportedType value => "unsupported type: " ++ value
  | unsupportedFormat value => "unsupported format: " ++ value
  | invalidItems typeName =>
    "invalid items: expected a schema or an array of schemas, got " ++ typeName
  | unresolvable reference reason =>
    "unresolvable reference `" ++ reference ++ "`: " ++ reason.message
  | malformed defect => "malformed schema: " ++ defect.message
  | pattern e => e.message

end SchemaError

end Specimen
