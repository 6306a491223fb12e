import Specimen.Yaml.Lexer
import Specimen.Yaml.Parser
import Specimen.Yaml.Scalar

/-!
# Documents in YAML

A text denotes the JSON document that its nodes form when every alias is replaced
by the node it stands for. The keys of mappings are the texts of scalars, and of
two with one text the later counts.

Replacing aliases can make a document much larger than its text, and an alias
inside its own node would never end. So collections are nested at most
`depthLimit` deep, and aliases are followed at most a hundred times as often as
the document has parts.
-/

namespace Specimen.Yaml

/-- How many collections may be open at once. -/
def depthLimit : Nat := 128

namespace Document

/-- The document of a text, before scalars and aliases are given their meaning. -/
def ofText? (text : String) : Option Document := (tokens? text).bind ofTokens?

/-- How many aliases may still be followed. -/
abbrev Budgeted := StateT Nat Option

/-- The node that a node stands for, which costs one step if it is an alias. -/
def follow (d : Document) (node : Node) : Budgeted Node := do
  match node with
  | .reference _ =>
    match ← get with
    | 0 => failure
    | left + 1 => set left
  | _ => pure ()
  match d.resolve? node with
  | some node => return node
  | none => failure

/-- The text of the scalar that a node stands for. -/
def keyText (d : Document) (node : Node) : Budgeted String := do
  match ← d.follow node with
  | .scalar text _ _ => return text
  | _ => failure

/-- Whether a tag leaves a collection what it is. -/
def allowsCollection (tag : Option String) : Bool := !(tag.any Scalar.isLocal)

/-- The JSON document that a node denotes, with `depth` more collections to be
opened at most. -/
def value (d : Document) : (depth : Nat) → Node → Budgeted Json
  | depth, node => do
    match ← d.follow node with
    | .scalar text style tag =>
      match Scalar.toJson? text style tag with
      | some v => return v
      | none => failure
    | .sequence items tag =>
      match depth with
      | 0 => failure
      | depth + 1 =>
        if allowsCollection tag then return .array (← items.mapM (value d depth)) else failure
    | .mapping entries tag =>
      match depth with
      | 0 => failure
      | depth + 1 =>
        if allowsCollection tag then
          let fields ← entries.mapM fun (key, v) => do
            return (← d.keyText key, ← value d depth v)
          return .object (Fields.ofList fields)
        else failure
    | .reference _ => failure

/-- The JSON document that a document denotes; without a root that is null. -/
def toJson? (d : Document) : Option Json :=
  match d.root with
  | none => some .null
  | some root =>
    let size := root.size
    ((d.value depthLimit root).run (100 * size)).map (·.1)

end Document

/-- The JSON document that a text denotes. -/
def read? (text : String) : Option Json := (Document.ofText? text).bind Document.toJson?

end Specimen.Yaml
