import Specimen.Pattern.Search
import Specimen.Schema.Node

/-!
# Property schemas

Which schema a property's value follows: the one declared for its name, else the
first whose pattern is found in the name, else the one for all other properties.
-/

namespace Specimen

/-- The schemas of an object's properties. -/
structure PropertyTable where
  declared : Fields
  /-- Schemas by pattern, in the order of the patterns' texts. -/
  patterns : List (Matcher × Json)
  /-- The schema of all other properties, if they have one. -/
  additional : Option Json

namespace PropertyTable

/-- The matchers of a table of schemas by pattern. -/
def compileAll : Fields → Except SchemaError (List (Matcher × Json))
  | [] => .ok []
  | (key, schema) :: rest =>
    match Matcher.compile key with
    | .error e => .error (.pattern e)
    | .ok m => (compileAll rest).map ((m, schema) :: ·)

/-- The schemas that a node declares for properties. -/
def ofNode (node : Node) : Except SchemaError PropertyTable := do
  let patterns ← compileAll ((node.object? "patternProperties").getD [])
  return {
    declared := (node.object? "properties").getD []
    patterns
    additional := (node.value? "additionalProperties").filter Json.isObject }

/-- The schema for a property of the given name. -/
def lookup (table : PropertyTable) (name : String) : Option Json :=
  match table.declared.get? name with
  | some schema => some schema
  | none =>
    match table.patterns.find? fun entry => entry.1.isMatch name with
    | some (_, schema) => some schema
    | none => table.additional

end PropertyTable

end Specimen
