import Specimen.CommandLine.Command
import Specimen.Settings.Reading

/-!
# Configuration files

A configuration file holds settings and perhaps a seed. It is written in YAML, of
which JSON is a part. Unlike in other settings, fields that mean nothing are
errors. What the command line says counts more than the file.
-/

namespace Specimen.CommandLine

/-- What a configuration file holds. -/
structure Configuration where
  settings : Settings := {}
  seed : Option Nat := none

namespace Configuration

/-- The seed that a scalar denotes. -/
def seed? : Yaml.Node → Option Nat
  | .scalar text style tag =>
    let isNumber := style = .plain ||
      (style = .literal && tag = some (Yaml.Scalar.typeTag "int"))
    let isNegative := text.toList.head? = some '-'
    if isNumber && !isNegative then
      match Yaml.Scalar.whole? text with
      | some n => if n ≤ uint64Max then some n.toNat else none
      | none => none
    else none
  | _ => none

/-- The configuration with one field as written. -/
def withField? (c : Configuration) (field : String × Yaml.Node) : Option Configuration :=
  let (name, value) := field
  if name = "seed" then
    (Settings.optionalOfYaml? seed? value).map fun seed => { c with seed }
  else if Settings.names.contains name then
    (c.settings.withYaml? field).map fun settings => { c with settings }
  else none

/-- The configuration that a document stands for. -/
def ofYaml? (d : Yaml.Document) : Option Configuration := do
  let fields ← Settings.yamlFields? d
  if Settings.areDistinct fields && (fields.filter (·.1 = "seed")).length ≤ 1 then
    fields.foldlM withField? {}
  else none

/-- The configuration that a text stands for. -/
def read? (text : String) : Option Configuration := (Yaml.Document.ofText? text).bind ofYaml?

/-- The configuration with what the command line says in place of what the file
says. -/
def override (c : Configuration) (flags : SampleFlags) : Configuration where
  settings :=
    { schemaDir := flags.schemaDir.or c.settings.schemaDir
      multiples := if flags.strictMultiples then .strict else c.settings.multiples
      refScope := flags.refScope.getD c.settings.refScope }
  seed := flags.seed.or c.seed

end Configuration

end Specimen.CommandLine
