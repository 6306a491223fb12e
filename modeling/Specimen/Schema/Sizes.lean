import Specimen.Schema.Node

/-!
# Sizes

How long a string and an array may be. The ends of a range of sizes may stand in
either order, since nothing relates the keywords they come from.
-/

namespace Specimen.Node

/-- The greatest length of a string that states none is at least this. -/
def usualLength : Nat := 5

/-- The least and the greatest length of a node's strings. -/
def lengths (node : Node) : Nat × Nat :=
  let least := (node.count? "minLength").getD 1
  (least, (node.count? "maxLength").getD (max usualLength (min (least + 1) uint64Max)))

/-- The least and the greatest number of items of a node's arrays. Without a
greatest number there are as many as there are item schemas. -/
def itemCounts (node : Node) (schemas : Nat) : Nat × Nat :=
  let least := (node.count? "minItems").getD 0
  (least, (node.count? "maxItems").getD (max schemas least))

/-- The format of a node's strings, if one is asked for. -/
def format? (node : Node) : Except SchemaError (Option Format) :=
  match node.string? "format" with
  | none => .ok none
  | some name => (Format.ofName name).map some

end Specimen.Node
