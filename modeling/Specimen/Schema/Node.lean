import Specimen.Schema.Kind

/-!
# Schema nodes

A schema is read off an object, keyword by keyword. A keyword whose value has
the wrong type reads as absent, so a node never fails after it is known to be an
object.
-/

namespace Specimen

/-- The count that a number stands for. Counts may be written with a fraction
that is zero. -/
def Number.count? : Number → Option Nat
  | .int n => if 0 ≤ n ∧ n ≤ uint64Max then some n.toNat else none
  | .float x =>
    if x.isIntegral ∧ 0 ≤ x ∧ x ≤ Double.ofInt uint64Max then
      some (x.toIntClamped 0 uint64Max).toNat
    else none

/-- A schema that is known to be an object. -/
structure Node where
  fields : Fields

namespace Node

/-- The node that a document is, if it is one. -/
def ofJson : Json → Except SchemaError Node
  | .object fields => .ok ⟨fields⟩
  | other => .error (.malformed (.notObject other.typeName))

/-- The document that the node is. -/
def toJson (node : Node) : Json := .object node.fields

/-- Whether a keyword is present, whatever its value. -/
def has (node : Node) (keyword : String) : Bool := node.fields.contains keyword

def value? (node : Node) (keyword : String) : Option Json := node.fields.get? keyword

def bool? (node : Node) (keyword : String) : Option Bool :=
  (node.value? keyword).bind Json.bool?

def double? (node : Node) (keyword : String) : Option Double :=
  ((node.value? keyword).bind Json.number?).map Number.toDouble

def count? (node : Node) (keyword : String) : Option Nat :=
  ((node.value? keyword).bind Json.number?).bind Number.count?

def string? (node : Node) (keyword : String) : Option String :=
  (node.value? keyword).bind Json.string?

def array? (node : Node) (keyword : String) : Option (List Json) :=
  (node.value? keyword).bind Json.array?

def object? (node : Node) (keyword : String) : Option Fields :=
  (node.value? keyword).bind Json.object?

/-- The strings of an array; its other members are passed over. -/
def strings? (node : Node) (keyword : String) : Option (List String) :=
  (node.array? keyword).map (·.filterMap Json.string?)

/-- Whether a keyword is literally `true`. -/
def flag (node : Node) (keyword : String) : Bool := (node.bool? keyword).getD false

end Node

end Specimen
