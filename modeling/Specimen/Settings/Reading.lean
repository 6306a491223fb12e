import Specimen.Schema.Error
import Specimen.Json.Reader
import Specimen.Settings
import Specimen.Yaml.Reader

/-!
# Written settings

Settings are read from JSON or from YAML. A setting that is not written keeps its
usual value. Fields that are no settings are passed over, and a setting that is
written twice is an error.

The two languages differ in what they take for a choice or a directory. In JSON
the settings may also be an array of their values, a directory must be a string,
and a choice is its name or an object with nothing under its name. In YAML every
scalar has a text, which will do for a directory or a choice, and the name of a
choice may stand as a tag before nothing.
-/

namespace Specimen.Settings

/-- The names of the settings, in their order. -/
def names : List String := ["schema_dir", "multiple_of", "ref_scope"]

/-- Whether no setting is written twice. -/
def areDistinct {α : Type} (fields : List (String × α)) : Bool :=
  names.all fun name => (fields.filter (·.1 = name)).length ≤ 1

/-! ## From JSON -/

/-- The choice that a document stands for. -/
def choiceOfJson? {α : Type} (ofName? : String → Option α) : Json → Option α
  | .string name => ofName? name
  | .object [(name, .null)] => ofName? name
  | _ => none

/-- The settings with one of them as written. -/
def withJson? (s : Settings) (field : String × Json) : Option Settings :=
  let (name, value) := field
  if name = "schema_dir" then
    match value with
    | .null => some { s with schemaDir := none }
    | .string text => some { s with schemaDir := some ⟨text⟩ }
    | _ => none
  else if name = "multiple_of" then
    (choiceOfJson? Multiples.ofName? value).map fun multiples => { s with multiples }
  else if name = "ref_scope" then
    (choiceOfJson? RefScope.ofName? value).map fun refScope => { s with refScope }
  else some s

/-- The settings that a document stands for, whose fields are as written. -/
def ofJson? : Json → Option Settings
  | .object fields => if areDistinct fields then fields.foldlM withJson? {} else none
  | .array values =>
    if values.length ≤ names.length then (names.zip values).foldlM withJson? {} else none
  | _ => none

/-! ## From YAML -/

/-- The fields of a document, each with the text of its key. Where nothing is
written there are none. -/
def yamlFields? (d : Yaml.Document) : Option (List (String × Yaml.Node)) :=
  match d.root with
  | none => some []
  | some root =>
    match d.resolve? root with
    | some (.scalar "" .plain _) => some []
    | some (.mapping entries _) =>
      entries.mapM fun (key, value) =>
        match d.resolve? key, d.resolve? value with
        | some (.scalar text _ _), some value => some (text, value)
        | _, _ => none
    | _ => none

/-- Whether a plain scalar without a tag is written as nothing. -/
def isNothing (text : String) : Bool := text.isEmpty || Yaml.Scalar.isNull text

/-- The scalar of a node, if it is not null. The tag of nulls must not stand
before anything else. -/
def optionalOfYaml? {α : Type} (read? : Yaml.Node → Option α) (node : Yaml.Node) :
    Option (Option α) :=
  match node with
  | .scalar text .plain tag =>
    if tag = some (Yaml.Scalar.typeTag "null") then
      if Yaml.Scalar.isNull text then some none else none
    else if tag.isNone && isNothing text then some none
    else (read? node).map some
  | _ => (read? node).map some

/-- The text of a scalar. -/
def textOfYaml? : Yaml.Node → Option String
  | .scalar text _ _ => some text
  | _ => none

/-- The choice that a node stands for. -/
def choiceOfYaml? {α : Type} (ofName? : String → Option α) : Yaml.Node → Option α
  | .scalar text style tag =>
    match tag.map String.toList with
    | some ('!' :: name) =>
      if style = .plain && isNothing text then ofName? (.ofList name) else none
    | _ => ofName? text
  | _ => none

/-- The settings with one of them as written. -/
def withYaml? (s : Settings) (field : String × Yaml.Node) : Option Settings :=
  let (name, value) := field
  if name = "schema_dir" then
    (optionalOfYaml? textOfYaml? value).map fun text =>
      { s with schemaDir := text.map fun text => ⟨text⟩ }
  else if name = "multiple_of" then
    (choiceOfYaml? Multiples.ofName? value).map fun multiples => { s with multiples }
  else if name = "ref_scope" then
    (choiceOfYaml? RefScope.ofName? value).map fun refScope => { s with refScope }
  else some s

/-- The settings that a document stands for. -/
def ofYaml? (d : Yaml.Document) : Option Settings := do
  let fields ← yamlFields? d
  if areDistinct fields then fields.foldlM withYaml? {} else none

/-! ## From texts -/

/-- The settings that a text in one of the two languages stands for. -/
def read? (text : String) : Dialect → Option Settings
  | .json => (Json.readWritten? text).bind ofJson?
  | .yaml => (Yaml.Document.ofText? text).bind ofYaml?

end Specimen.Settings
