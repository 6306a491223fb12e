import Specimen.Random.FormatValue
import Specimen.Schema.Bounds
import Specimen.Schema.Overlay
import Specimen.Schema.PropertyNames
import Specimen.Schema.PropertyTable
import Specimen.Schema.Reference
import Specimen.Schema.Sizes
import Specimen.Settings

/-!
# Samples

A sample of a schema is made by descending through it. At every node the branches
are overlaid, a reference is followed, a member of an enumeration or a constant
is taken, and otherwise a value of one of the node's types is made, with the
children of arrays and objects sampled in turn.

Each step of the descent (`Sampler.step`) is given the descent itself, so it can
be read without knowing how deep the descent goes. `Sampler.value` ties the knot
with a bound on the depth.

Next to its schema every step gets the schema around it, if there is one, as the
place where references that are mere pointers start.
-/

namespace Specimen

/-- What samples are made with, the random source apart. -/
structure Sampler where
  settings : Settings
  /-- The directory that paths in references start from. -/
  baseDir : Path
  loader : Loader

namespace Sampler

/-- A sampler with the usual settings and the current directory. -/
def ofLoader (loader : Loader) : Sampler := ⟨{}, ⟨"."⟩, loader⟩

/-- The sampler with other settings; a directory among them becomes the one that
paths start from. -/
def withSettings (s : Sampler) (settings : Settings) : Sampler :=
  { s with settings, baseDir := settings.schemaDir.getD s.baseDir }

def withLoader (s : Sampler) (loader : Loader) : Sampler := { s with loader }

variable {σ : Type} [Source σ]

/-! ## Numbers -/

/-- A number with a fraction as a sample, which it can only be if it is finite. -/
def ofDouble (x : Double) : Except SchemaError Json :=
  if x.isFinite then .ok (.number (.float x)) else .error (.malformed (.notFinite x))

/-- The product of an integer and a step: an integer if the step is one and the
product has 64 bits. -/
def scaled (n : Int) (step : Double) : Except SchemaError Json :=
  let product := n * step.toInt64
  if step.isIntegral ∧ step.abs < .ofInt 0x8000_0000_0000_0000 ∧ saturate product = product then
    .ok (.number (.int product))
  else ofDouble (.ofInt n * step)

/-- Whether factors of the step are drawn rather than multiplied numbers. -/
def drawsFactors (s : Sampler) (node : Node) : Bool :=
  s.settings.multiples = .strict && node.has "multipleOf"

def integer (s : Sampler) (node : Node) : Draw σ SchemaError Json := do
  let (lo, hi) ← Draw.ofExcept node.integerRange
  let (lo, hi) ←
    if s.drawsFactors node then Draw.ofExcept (factorRange (.ofInt lo) (.ofInt hi) node.step)
    else pure (lo, hi)
  let n ← Draw.intBetween lo hi
  Draw.ofExcept (scaled n node.step)

def number (s : Sampler) (node : Node) : Draw σ SchemaError Json := do
  let (lo, hi) ← Draw.ofExcept node.numberRange
  if s.drawsFactors node then
    let (lo, hi) ← Draw.ofExcept (factorRange lo hi node.step)
    let n ← Draw.intBetween lo hi
    Draw.ofExcept (scaled n node.step)
  else
    let x ← Draw.doubleBetween lo hi
    Draw.ofExcept (ofDouble (x * node.step))

/-! ## Strings -/

/-- A text repeated until it has at least `least` characters, if it has any, and
cut to at most `greatest`. -/
def fitLength (text : String) (least greatest : Nat) : String :=
  let chars := text.toList
  let copies :=
    if 0 < chars.length ∧ chars.length < least then (least + chars.length - 1) / chars.length
    else 1
  truncate (.ofList (List.replicate copies chars).flatten) greatest

/-- A string of the node's format, else of its pattern, else of lorem text. -/
def string (node : Node) : Draw σ SchemaError Json := do
  match ← Draw.ofExcept node.format? with
  | some format => return .string (← Draw.formatValue format)
  | none =>
    match node.string? "pattern" with
    | some source =>
      let p ← Draw.ofExcept ((Pattern.parse source).mapError .pattern)
      return .string (← p.draw)
    | none =>
      let (least, greatest) := node.lengths
      let text ← Draw.text greatest
      return .string (fitLength text least greatest)

/-! ## Containers -/

/-- How a child is sampled: its schema and the schema around it. -/
abbrev Descent (σ : Type) := Json → Option Json → Draw σ SchemaError Json

/-- The smallest schema of a random kind. -/
def anySchema : Draw σ SchemaError Json := do
  return ((← Draw.element Kind.all).getD .null).toSchema

/-- The schemas of an array's items. Where none are given, one of a random kind
stands for them. -/
def itemSchemas (node : Node) : Draw σ SchemaError (List Json) := do
  match node.value? "items" with
  | none => return [← anySchema]
  | some (.object fields) => return [.object fields]
  | some (.array schemas) => return schemas
  | some other => Draw.fail (.invalidItems other.typeName)

/-- The schemas of a number of slots, the given ones over and over. -/
def slotSchemas (schemas : List Json) (count : Nat) : List Json :=
  (List.range count).filterMap fun i => schemas[i % schemas.length]?

/-- The items without those that equal an earlier one, in reverse before `kept`. -/
def distinctItems (kept : List Json) : List Json → List Json
  | [] => kept.reverse
  | item :: rest =>
    if kept.any (·.same item) then distinctItems kept rest else distinctItems (item :: kept) rest

def array (descend : Descent σ) (node : Node) (scope : Json) : Draw σ SchemaError Json := do
  let schemas ← itemSchemas node
  let (least, greatest) := node.itemCounts schemas.length
  let count ← Draw.countBetween least greatest
  let schemas ← if schemas.isEmpty ∧ 0 < count then do pure [← anySchema] else pure schemas
  let items ← Draw.sequence ((slotSchemas schemas count).map fun schema => descend schema scope)
  return .array (if node.flag "uniqueItems" then distinctItems [] items else items)

/-- The value of one property. -/
def property (descend : Descent σ) (table : PropertyTable) (scope : Json) (name : String) :
    Draw σ SchemaError (String × Json) := do
  let schema ← match table.lookup name with
    | some schema => pure schema
    | none => anySchema
  return (name, ← descend schema scope)

def object (descend : Descent σ) (node : Node) (scope : Json) : Draw σ SchemaError Json := do
  let names ← PropertyNames.select node
  let table ← Draw.ofExcept (PropertyTable.ofNode node)
  let fields ← Draw.sequence (names.map (property descend table scope))
  return .object (Fields.ofList fields)

/-! ## The descent -/

/-- The schema that pointers start from below a node: the node, or the schema
that they already start from if that is the document. -/
def scopeOf (s : Sampler) (node : Node) (parent : Option Json) : Json :=
  match s.settings.refScope with
  | .enclosing => node.toJson
  | .document => parent.getD node.toJson

/-- Samples what a reference leads to. -/
def follow (s : Sampler) (descend : Descent σ) (reference : String) (node : Node)
    (parent : Option Json) : Draw σ SchemaError Json := do
  let scope := match s.settings.refScope with
    | .enclosing => parent
    | .document => some (parent.getD node.toJson)
  match ← Draw.ofExcept (Reference.resolve reference scope s.baseDir s.loader) with
  | .inline target scope => descend target scope
  | .document d => descend d parent
  | .fragment d pointer =>
    match d.walk? pointer with
    | some target => descend target d
    | none => Draw.fail (.unresolvable reference .noTarget)

/-- The kind of value that is made; of several types one is drawn. -/
def kind (node : Node) : Draw σ SchemaError Kind :=
  match node.value? "type" with
  | none => Draw.fail (.missingType node.toJson)
  | some (.string name) => Draw.ofExcept (Kind.ofName name)
  | some (.array names) => do
    match ← Draw.element names with
    | none => Draw.fail (.missingType node.toJson)
    | some (.string name) => Draw.ofExcept (Kind.ofName name)
    | some other => Draw.fail (.unsupportedType other.compact)
  | some other => Draw.fail (.unsupportedType other.compact)

/-- A value of a kind. -/
def ofKind (s : Sampler) (descend : Descent σ) (node : Node) (scope : Json) :
    Kind → Draw σ SchemaError Json
  | .null => pure .null
  | .boolean => do return .bool (← Draw.boolean)
  | .integer => s.integer node
  | .number => s.number node
  | .string => string node
  | .array => array descend node scope
  | .object => object descend node scope

/-- A sample of a node that holds no branches. -/
def ofNode (s : Sampler) (descend : Descent σ) (node : Node) (parent : Option Json) :
    Draw σ SchemaError Json := do
  if node.has "$ref" then
    match node.string? "$ref" with
    | some reference => s.follow descend reference node parent
    | none => Draw.fail (.malformed (.referenceNotString node.toJson))
  else if node.has "enum" then
    match ← Draw.element ((node.array? "enum").getD []) with
    | some member => return member
    | none => Draw.fail (.malformed (.enumEmpty node.toJson))
  else
    match node.value? "const" with
    | some constant => return constant
    | none => s.ofKind descend node (s.scopeOf node parent) (← kind node)

/-- One step of the descent. -/
def step (s : Sampler) (descend : Descent σ) : Descent σ := fun schema parent => do
  let node ← Draw.ofExcept (Node.ofJson schema)
  let overlaid ← Overlay.resolve node
  s.ofNode descend (overlaid.getD node) parent

/-- A sample of a schema, found in a descent of at most the given depth. -/
def value (s : Sampler) : Nat → Descent σ
  | 0 => fun _ _ => Draw.endless
  | depth + 1 => s.step (value s depth)

/-- A sample of a schema inside another, if there is one around it. -/
def sampleWithin (s : Sampler) (schema : Json) (parent : Option Json) :
    Draw σ SchemaError Json := do
  s.value (← Draw.limit) schema parent

/-- A sample of a schema. -/
def sample (s : Sampler) (schema : Json) : Draw σ SchemaError Json := s.sampleWithin schema none

/-- The schema at a path, and the sampler that samples it: unless a directory is
set, paths start from the schema's own. -/
def openFile (s : Sampler) (p : Path) : Except SchemaError (Json × Sampler) :=
  if s.loader.has p then
    match s.loader.load p with
    | .error e => .error e
    | .ok schema =>
      let baseDir := if s.settings.schemaDir.isNone then p.parent?.getD s.baseDir else s.baseDir
      .ok (schema, { s with baseDir })
  else .error (.unresolvable p.text .noSchemaFile)

end Sampler

end Specimen
