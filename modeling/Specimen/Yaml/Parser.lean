import Specimen.Yaml.Node

/-!
# Documents of tokens

The tokens of a document form a tree of nodes. The functions for nodes and for
the parts of collections call each other and carry an amount of fuel that bounds
the depth of the calls; no three calls in a row leave all the tokens, so four
times their number is enough.

Aliases are numbers. An anchor gets the number of the names that were in use
before it; a name that is used again gets a new number in the same way, which the
next new name then has too. An alias stands for the last node with its number.
-/

namespace Specimen.Yaml

/-- How far tokens have been taken apart. -/
structure Parser where
  tokens : List Token
  /-- What the handles of tags stand for, the first one with a name counts. -/
  handles : List (String × String)
  /-- The number that every name of an anchor has. -/
  names : List (String × Nat) := []
  /-- How many anchors there were. -/
  anchors : Nat := 0
  /-- Which anchor is the last one with a number. -/
  latest : List (Nat × Nat) := []
  /-- The nodes that the anchors stand before. -/
  nodes : List (Nat × Node) := []

/-- Takes tokens off the front and makes something of them. -/
abbrev Parse := StateT Parser Option

namespace Parse

def fail {α : Type} : Parse α := fun _ => none

def peek : Parse (Option Token) := do return (← get).tokens.head?

def drop : Parse Unit := modify fun s => { s with tokens := s.tokens.tail }

/-- Takes the token in front if it is the given one. -/
def accept (token : Token) : Parse Bool := do
  if (← peek) = some token then
    drop
    return true
  else return false

/-- Whether a part of a flow collection may follow: the first one may, and after a
comma any other. -/
def separated (first : Bool) : Parse Bool := if first then return true else accept .flowEntry

/-! ## Properties of nodes -/

/-- The tag that a handle and a suffix denote. -/
def tag (handle suffix : String) : Parse String := do
  if handle.isEmpty then return suffix
  else
    match (← get).handles.lookup handle with
    | some meaning => return meaning ++ suffix
    | none => fail

/-- Gives a number to a name. The result tells the anchor from others. -/
def anchor (name : String) : Parse Nat := do
  let s ← get
  let number := s.names.length
  set { s with
    names := (name, number) :: s.names.filter (·.1 != name)
    latest := (number, s.anchors) :: s.latest
    anchors := s.anchors + 1 }
  return s.anchors

def takeAnchor : Parse (Option Nat) := do
  match ← peek with
  | some (.anchor name) =>
    drop
    return some (← anchor name)
  | _ => return none

def takeTag : Parse (Option String) := do
  match ← peek with
  | some (.tag handle suffix) =>
    drop
    return some (← tag handle suffix)
  | _ => return none

/-- The anchor and the tag in front, in either order. -/
def properties : Parse (Option Nat × Option String) := do
  match ← takeAnchor with
  | some anchor => return (some anchor, ← takeTag)
  | none =>
    let tag ← takeTag
    return (← takeAnchor, tag)

/-! ## Nodes -/

mutual

/-- The node in front. Block collections count as nodes only where `block` says
so, and entries without indentation only where `unindented` does. -/
def node (fuel : Nat) (block unindented : Bool) : Parse Node :=
  match fuel with
  | 0 => fail
  | fuel + 1 => do
    match ← peek with
    | some (.reference name) =>
      drop
      match (← get).names.lookup name with
      | some number => return .reference number
      | none => fail
    | _ =>
      let (anchor, tag) ← properties
      let made ← content fuel block unindented (anchor.isSome || tag.isSome) tag
      if let some anchor := anchor then
        modify fun s => { s with nodes := (anchor, made) :: s.nodes }
      return made

/-- The node in front without its properties; where it has some, it may be
empty. -/
def content (fuel : Nat) (block unindented hasProperties : Bool) (tag : Option String) :
    Parse Node :=
  match fuel with
  | 0 => fail
  | fuel + 1 => do
    match ← peek with
    | some (.scalar text style) =>
      drop
      return .scalar text style tag
    | some .flowSequenceStart =>
      drop
      return .sequence (← flowItems fuel true []) tag
    | some .flowMappingStart =>
      drop
      return .mapping (← flowEntries fuel true []) tag
    | some token =>
      if token = .blockEntry && unindented then return .sequence (← unindentedItems fuel []) tag
      else if token = .blockSequenceStart && block then
        drop
        return .sequence (← blockItems fuel []) tag
      else if token = .blockMappingStart && block then
        drop
        return .mapping (← blockEntries fuel []) tag
      else if hasProperties then return .scalar "" .plain tag
      else fail
    | none => if hasProperties then return .scalar "" .plain tag else fail

/-- The node in front, or the empty one before a token in `ends`. -/
def nodeOrEmpty (fuel : Nat) (block unindented : Bool) (ends : List Token) : Parse Node :=
  match fuel with
  | 0 => fail
  | fuel + 1 => do
    if (← peek).any ends.contains then return .empty else node fuel block unindented

/-- The items of a block sequence up to its end. -/
def blockItems (fuel : Nat) (done : List Node) : Parse (List Node) :=
  match fuel with
  | 0 => fail
  | fuel + 1 => do
    if ← accept .blockEntry then
      blockItems fuel ((← nodeOrEmpty fuel true false [.blockEntry, .blockEnd]) :: done)
    else if ← accept .blockEnd then return done.reverse
    else fail

/-- The items of a block sequence that stands in the column of its key. -/
def unindentedItems (fuel : Nat) (done : List Node) : Parse (List Node) :=
  match fuel with
  | 0 => fail
  | fuel + 1 => do
    if ← accept .blockEntry then
      unindentedItems fuel
        ((← nodeOrEmpty fuel true false [.blockEntry, .key, .value, .blockEnd]) :: done)
    else return done.reverse

/-- The entries of a block mapping up to its end. -/
def blockEntries (fuel : Nat) (done : List (Node × Node)) : Parse (List (Node × Node)) :=
  match fuel with
  | 0 => fail
  | fuel + 1 => do
    if ← accept .key then
      let key ← nodeOrEmpty fuel true true [.key, .value, .blockEnd]
      let value ←
        if ← accept .value then nodeOrEmpty fuel true true [.key, .value, .blockEnd]
        else pure .empty
      blockEntries fuel ((key, value) :: done)
    else if ← accept .blockEnd then return done.reverse
    else fail

/-- The items of a flow sequence up to its end. An item with a key is a mapping
of one entry; where its key is missing, the token in its place is passed over. -/
def flowItems (fuel : Nat) (first : Bool) (done : List Node) : Parse (List Node) :=
  match fuel with
  | 0 => fail
  | fuel + 1 => do
    if ← accept .flowSequenceEnd then return done.reverse
    else if ← separated first then
      if ← accept .flowSequenceEnd then return done.reverse
      else if ← accept .key then
        let key ← match ← peek with
          | some token =>
            if token = .value || token = .flowEntry || token = .flowSequenceEnd then do
              drop
              pure .empty
            else node fuel false false
          | none => fail
        let value ←
          if ← accept .value then nodeOrEmpty fuel false false [.flowEntry, .flowSequenceEnd]
          else pure .empty
        flowItems fuel false (.mapping [(key, value)] none :: done)
      else flowItems fuel false ((← node fuel false false) :: done)
    else fail

/-- The entries of a flow mapping up to its end. An entry without a key is a key
without a value. -/
def flowEntries (fuel : Nat) (first : Bool) (done : List (Node × Node)) :
    Parse (List (Node × Node)) :=
  match fuel with
  | 0 => fail
  | fuel + 1 => do
    if ← accept .flowMappingEnd then return done.reverse
    else if ← separated first then
      if ← accept .flowMappingEnd then return done.reverse
      else if ← accept .key then
        let key ← nodeOrEmpty fuel false false [.value, .flowEntry, .flowMappingEnd]
        let value ←
          if ← accept .value then nodeOrEmpty fuel false false [.flowEntry, .flowMappingEnd]
          else pure .empty
        flowEntries fuel false ((key, value) :: done)
      else
        let key ← node fuel false false
        flowEntries fuel false ((key, .empty) :: done)
    else fail

end

/-! ## Documents -/

/-- The handles that need no directive. -/
def usualHandles : List (String × String) := [("!", "!"), ("!!", "tag:yaml.org,2002:")]

/-- Takes the directives in front and says whether there are any. There is at
most one version, which must be known, and no handle is given two meanings. -/
def directives : List Token → (versioned : Bool) → (handles : List (String × String)) →
    Option (List Token × List (String × String))
  | .version major minor :: rest, versioned, handles =>
    if versioned || major != 1 || (minor != 1 && minor != 2) then none
    else directives rest true handles
  | .handle name meaning :: rest, versioned, handles =>
    if (handles.lookup name).isSome then none
    else directives rest versioned ((name, meaning) :: handles)
  | tokens, _, handles => some (tokens, handles)

/-- The node below the mark that starts a document. -/
def documentContent (fuel : Nat) : Parse Node := do
  match ← peek with
  | none => return .empty
  | some (.version _ _) => return .empty
  | some (.handle _ _) => return .empty
  | some .documentStart => return .empty
  | some .documentEnd => return .empty
  | some _ => node fuel true false

/-- The root of a document, with or without the mark that starts it. -/
def root (fuel : Nat) : Parse Node := do
  let s ← get
  match s.tokens with
  | .version _ _ :: _ | .handle _ _ :: _ | .documentStart :: _ =>
    match directives s.tokens false [] with
    | some (.documentStart :: tokens, handles) =>
      set { s with tokens, handles := handles ++ s.handles }
      documentContent fuel
    | _ => fail
  | _ => node fuel true false

end Parse

/-- The only document that tokens form. -/
def Document.ofTokens? (tokens : List Token) : Option Document :=
  if tokens.isEmpty then some ⟨none, []⟩
  else
    match (Parse.root (4 * tokens.length + 4)).run { tokens, handles := Parse.usualHandles } with
    | some (root, s) =>
      let anchored := s.latest.filterMap fun (number, anchor) =>
        (s.nodes.lookup anchor).map fun node => (number, node)
      if s.tokens.all (· = .documentEnd) then some ⟨some root, anchored⟩ else none
    | none => none

end Specimen.Yaml
