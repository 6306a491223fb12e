import Specimen.Schema.Reference

/-!
# The reach of references

Sampling asks for documents as it meets references to them. Whoever wants to have
all of them at hand beforehand needs to know which paths can be asked for: those
that the references in a document may lead to, and so on for the documents that
are found there.
-/

namespace Specimen.Reference

mutual

/-- The references in a document, wherever they stand. -/
def within : Json → List String
  | .array items => withinItems items
  | .object fields => withinFields fields
  | _ => []

def withinItems : List Json → List String
  | [] => []
  | item :: rest => within item ++ withinItems rest

def withinFields : List (String × Json) → List String
  | [] => []
  | ("$ref", .string reference) :: rest => reference :: withinFields rest
  | (_, value) :: rest => within value ++ withinFields rest

end

/-- The paths that are asked for on behalf of a reference. A mere pointer needs
none. -/
def paths (base : Path) (reference : String) : List Path :=
  match reference.toList with
  | '#' :: _ => []
  | text =>
    pathFrom base text :: ((splitFragment? text).map fun (file, _) => pathFrom base file).toList

/-- The paths that the text at a path may make a sampler ask for. -/
def pathsIn (base p : Path) (text : String) : List Path :=
  match parseDocument p text with
  | .ok d => (within d).flatMap (paths base)
  | .error _ => []

end Specimen.Reference
