import Specimen.Random.Pick
import Specimen.Schema.Node

/-!
# Overlaid branches

A node with alternatives or combined schemas is made one node before it is used:
its own keywords lie at the bottom and the chosen branches are laid over them in
their order, a later value of a keyword hiding an earlier one. All branches of
`allOf` are chosen, some of `anyOf` and one of `oneOf`; only the first of the
three that is an array counts.
-/

namespace Specimen.Overlay

/-- The keywords that hold branches. -/
def keywords : List String := ["allOf", "anyOf", "oneOf"]

/-- The node's own keywords, without those that hold branches. -/
def base (node : Node) : Fields := node.fields.filter fun field => !keywords.contains field.1

/-- Fields with those of a branch laid over them. -/
def lay (fields branch : Fields) : Fields :=
  branch.foldl (fun fields field => Fields.insert field.1 field.2 fields) fields

/-- Fields with all branches laid over them, each of which must be an object. -/
def layAll (fields : Fields) : List Json → Except SchemaError Fields
  | [] => .ok fields
  | branch :: rest => do
    let node ← Node.ofJson branch
    layAll (lay fields node.fields) rest

/-- The branches that are laid over a node; none if it holds no branches. -/
def branches {σ ε : Type} [Source σ] (node : Node) : Draw σ ε (Option (List Json)) :=
  match node.array? "allOf" with
  | some all => pure (some all)
  | none =>
    match node.array? "anyOf" with
    | some any => do return some (← Draw.subset any)
    | none =>
      match node.array? "oneOf" with
      | some one => do return some (← Draw.element one).toList
      | none => pure none

/-- The node with its branches laid over it, or nothing if it holds none. -/
def resolve {σ : Type} [Source σ] (node : Node) : Draw σ SchemaError (Option Node) := do
  match ← branches node with
  | none => return none
  | some layers => return some ⟨← Draw.ofExcept (layAll (base node) layers)⟩

end Specimen.Overlay
