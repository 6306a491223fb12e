import Specimen.Pattern.Drawing
import Specimen.Random.Text
import Specimen.Schema.Node

/-!
# Property names

Which properties a sample object has: all required ones, some of the others that
are declared, whatever these bring along as dependencies, and made-up names if
that is still fewer than asked for. No name comes twice, and a name keeps the
place where it came first.
-/

namespace Specimen.PropertyNames

variable {σ : Type} [Source σ]

/-- Names with one more at the end, unless it is there already. -/
def add (names : List String) (name : String) : List String :=
  if name ∈ names then names else names ++ [name]

/-- Names with more of them at the end, each only once. -/
def addAll (names more : List String) : List String := more.foldl add names

/-! ## Declared names -/

def required (node : Node) : List String := (node.strings? "required").getD []

/-- The declared names that are not required, in order. -/
def optional (node : Node) : List String :=
  (Fields.names ((node.object? "properties").getD [])).filter fun name =>
    !(required node).contains name

/-- The least and the greatest number of optional names, as far as the limits on
the number of properties leave room for them. -/
def optionalCounts (node : Node) : Nat × Nat :=
  let required := (required node).length
  let optional := (optional node).length
  let room := match node.count? "maxProperties" with
    | some most => most - required
    | none => optional
  let greatest := min optional room
  (min ((node.count? "minProperties").getD 0 - required) greatest, greatest)

/-! ## Dependencies -/

/-- The tables that say which names bring others along. -/
def dependencyTables (node : Node) : List Fields :=
  ["dependencies", "dependentRequired"].filterMap node.object?

/-- The names that a name brings along. Only lists of names count. -/
def dependents (tables : List Fields) (name : String) : List String :=
  tables.flatMap fun table =>
    match table.get? name with
    | some (.array items) => items.filterMap Json.string?
    | _ => []

/-- All names that some table mentions as dependents. -/
def mentioned (tables : List Fields) : List String :=
  tables.flatMap fun table => table.flatMap fun field =>
    match field.2 with
    | .array items => items.filterMap Json.string?
    | _ => []

/-- Looks at one name after another, those that are added included, and adds what
each brings along. -/
def closeFrom (tables : List Fields) (next : Nat) (names : List String) : Nat → List String
  | 0 => names
  | rounds + 1 =>
    match names[next]? with
    | none => names
    | some name => closeFrom tables (next + 1) (addAll names (dependents tables name)) rounds

/-- The names with all that they bring along. Every name is looked at once, and
all that are added are mentioned in a table. -/
def close (node : Node) (names : List String) : List String :=
  let tables := dependencyTables node
  closeFrom tables 0 names (names.length + (mentioned tables).length)

/-! ## Made-up names -/

/-- Whether properties may have names that are not declared. -/
def isOpen (node : Node) : Bool :=
  match node.value? "additionalProperties" with
  | some (.bool false) => false
  | _ => true

/-- How often in all a made-up name may turn out to be taken. -/
def attemptLimit : Nat := 1000

/-- The first of the names `base_n`, `base_(n+1)`, … that is not taken. One of
the first few is free, as there are more of them than names. -/
def freshSuffix (names : List String) (base : String) (n : Nat) : Nat → String
  | 0 => base
  | tries + 1 =>
    let name := base ++ "_" ++ toString n
    if name ∈ names then freshSuffix names base (n + 1) tries else name

/-- A name for `base` that is not taken. -/
def suffixed (names : List String) (base : String) : String :=
  freshSuffix names base names.length (names.length + 1)

/-- Adds words until there are enough names; one that is taken gets a suffix. -/
def fillOpen (names : List String) : Nat → Draw σ SchemaError (List String)
  | 0 => pure names
  | missing + 1 => do
    let word ← Draw.word
    let name := if word ∈ names then suffixed names word else word
    fillOpen (names ++ [name]) missing

/-- Adds names drawn from patterns until there are enough. Each round either adds
a name or uses up one of the attempts. -/
def fillClosed (patterns : List Pattern) (least : Nat) (attempts : Nat) (names : List String) :
    Nat → Draw σ SchemaError (List String)
  | 0 => pure names
  | rounds + 1 => do
    if least ≤ names.length then return names
    let candidate ← match ← Draw.element patterns with
      | some p => p.draw
      | none => Draw.word
    if candidate ∈ names then
      if attempts + 1 < attemptLimit then fillClosed patterns least (attempts + 1) names rounds
      else Draw.fail (.malformed (.namesRepeated names.length least))
    else fillClosed patterns least attempts (names ++ [candidate]) rounds

/-- The patterns of a table of schemas, in the order of their keys. -/
def parsePatterns : List String → Except SchemaError (List Pattern)
  | [] => .ok []
  | key :: rest =>
    match Pattern.parse key with
    | .error e => .error (.pattern e)
    | .ok p => (parsePatterns rest).map (p :: ·)

/-- The patterns that made-up names of a closed object follow. -/
def namePatterns (node : Node) : Except SchemaError (List Pattern) :=
  parsePatterns (Fields.names ((node.object? "patternProperties").getD []))

/-- Adds made-up names until there are as many as the node asks for at least. -/
def fill (node : Node) (names : List String) : Draw σ SchemaError (List String) := do
  let least := (node.count? "minProperties").getD 0
  let missing := least - names.length
  if missing = 0 then return names
  if isOpen node then fillOpen names missing
  else
    let patterns ← Draw.ofExcept (namePatterns node)
    if patterns.isEmpty then Draw.fail (.malformed (.namesExhausted least missing))
    else fillClosed patterns least 0 names (missing + attemptLimit)

/-! ## Selection -/

/-- The names of the properties that a sample of a node has. -/
def select (node : Node) : Draw σ SchemaError (List String) := do
  let (least, greatest) := optionalCounts node
  let count ← Draw.countBetween least greatest
  let chosen ← Draw.elements (optional node) count
  fill node (close node (addAll [] (required node ++ chosen)))

end Specimen.PropertyNames
