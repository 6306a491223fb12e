import Specimen.Json.Pointer
import Specimen.Schema.Loader

/-!
# References

A reference is one of three things: a pointer into the enclosing schema (`#` and
the pointer), the path of a document, or the path of a document followed by `#`
and a pointer into it. The last is tried only when no document stands at the
whole text, because file names may hold a `#`.
-/

namespace Specimen

/-- Where a reference led. -/
inductive Resolved where
  /-- A part of the enclosing schema `scope`. -/
  | inline (target scope : Json)
  /-- A whole document. -/
  | document (d : Json)
  /-- The part of a document that a pointer names. -/
  | fragment (d : Json) (pointer : String)

namespace Reference

/-- A text without any `./` in front. -/
def dropDotSlash : List Char → List Char
  | '.' :: '/' :: rest => dropDotSlash rest
  | text => text

/-- The path that a text names from a base directory. -/
def pathFrom (base : Path) (text : List Char) : Path :=
  base.join ⟨.ofList (dropDotSlash text)⟩

/-- The parts of a text before and after its only `#`. -/
def splitFragment? (text : List Char) : Option (List Char × List Char) :=
  match text.span (· != '#') with
  | (file, _ :: pointer) => if pointer.contains '#' then none else some (file, pointer)
  | (_, []) => none

/-- Follows a pointer into the enclosing schema. -/
def resolveInline (reference pointer : String) (parent : Option Json) :
    Except SchemaError Resolved :=
  match parent with
  | none => .error (.unresolvable reference .noEnclosingSchema)
  | some scope =>
    match scope.walk? pointer with
    | none => .error (.unresolvable reference .noTarget)
    | some target => .ok (.inline target scope)

/-- Follows a reference to another document or into one. -/
def resolveExternal (reference : String) (base : Path) (loader : Loader) :
    Except SchemaError Resolved :=
  let whole := pathFrom base reference.toList
  if loader.has whole then (loader.load whole).map .document
  else
    match splitFragment? reference.toList with
    | none => .error (.unresolvable reference (.noFile whole))
    | some (file, pointer) =>
      let path := pathFrom base file
      if loader.has path then
        match loader.load path with
        | .error e => .error e
        | .ok d =>
          if (d.walk? (.ofList pointer)).isSome then .ok (.fragment d (.ofList pointer))
          else .error (.unresolvable reference (.noTargetIn path))
      else .error (.unresolvable reference (.noFile path))

/-- Follows a reference from a place inside `parent`, with other documents found
from the directory `base`. -/
def resolve (reference : String) (parent : Option Json) (base : Path) (loader : Loader) :
    Except SchemaError Resolved :=
  match reference.toList with
  | '#' :: pointer => resolveInline reference (.ofList pointer) parent
  | _ => resolveExternal reference base loader

end Reference

end Specimen
