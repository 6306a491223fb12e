import Specimen.Digits

/-!
# Command lines

A command line is a list of words: switches with or without a value, other words
in fixed places, and perhaps the name of a command with words of its own. What
the words mean is given by a `Grammar`, whose parts change what has been gathered
so far.

A word that takes its place is settled only when the next one is met, or at the
end. So an unknown switch is reported before a bad value directly in front of it.
-/

namespace Specimen.CommandLine

/-- Why a command line cannot be used. -/
inductive UsageError where
  | unknownArgument
  | missingArgument
  /-- A value is missing, is empty, or is none of the allowed ones. -/
  | invalidValue
  /-- A value that is no number where one is asked for. -/
  | unreadableValue
  /-- A switch is given twice. -/
  | conflict
  /-- A value is attached to a switch that takes none. -/
  | unneededValue
  | missingCommand
  | unknownCommand
  /-- Help is asked for. -/
  | help
  /-- The version is asked for. -/
  | version
deriving DecidableEq

/-- What a switch does to what has been gathered. -/
inductive Action (α : Type) where
  | flag (set : α → Except UsageError α)
  | value (set : α → String → Except UsageError α)

/-- A word that starts with hyphens. -/
structure Switch (α : Type) where
  long : String
  short : Option Char
  action : Action α

/-- What the words of a command line mean. -/
structure Grammar (α : Type) where
  switches : List (Switch α)
  /-- The words that are no switches, by their places. -/
  places : List (α → String → Except UsageError α)
  /-- The commands that end the line and have words of their own. -/
  commands : List String

/-! ## Gathering -/

/-- A place for a word, with the word if it has been met. -/
structure Pending (α : Type) where
  set : α → String → Except UsageError α
  word : Option String

/-- What has been gathered of a command line. -/
structure Gathered (α : Type) where
  settled : α
  pending : Option (Pending α)
  /-- The places that no word has been met for. -/
  places : List (α → String → Except UsageError α)
  /-- The command and the words after it. -/
  command : Option (String × List String)

namespace Gathered

variable {α : Type}

/-- Settles the word in its place. -/
def settle (g : Gathered α) : Except UsageError (Gathered α) :=
  match g.pending with
  | none => .ok g
  | some ⟨_, none⟩ => .error .invalidValue
  | some ⟨set, some word⟩ => do
    let settled ← set g.settled word
    return { g with settled, pending := none }

/-- Whether the next word is the value of a switch. -/
def awaitsValue (g : Gathered α) : Bool := g.pending.any (·.word.isNone)

/-- Applies a switch, with the value that is attached to it, if there is one. -/
def apply (g : Gathered α) (action : Action α) (attached : Option String) :
    Except UsageError (Gathered α) :=
  match action, attached with
  | .flag _, some _ => .error .unneededValue
  | .flag set, none => do
    let g ← g.settle
    return { g with settled := ← set g.settled }
  | .value set, some word => do
    let g ← g.settle
    return { g with settled := ← set g.settled word }
  | .value set, none => do
    let g ← g.settle
    return { g with pending := some ⟨set, none⟩ }

/-- Puts a word into its place. -/
def place (g : Gathered α) (word : String) : Except UsageError (Gathered α) :=
  match g.places with
  | [] => .error .unknownArgument
  | set :: places => do
    let g ← g.settle
    return { g with pending := some ⟨set, some word⟩, places }

end Gathered

/-! ## Words -/

namespace Grammar

variable {α : Type}

/-- The action of the switch with the given long name. -/
def long? (grammar : Grammar α) (name : String) : Option (Action α) :=
  (grammar.switches.find? (·.long = name)).map (·.action)

def short? (grammar : Grammar α) (name : Char) : Option (Action α) :=
  (grammar.switches.find? (·.short = some name)).map (·.action)

/-- A switch by its long name; a value may be attached behind an equals sign. -/
def readLong (grammar : Grammar α) (g : Gathered α) (text : List Char) :
    Except UsageError (Gathered α) :=
  let (name, rest) := text.span (· != '=')
  match grammar.long? (.ofList name) with
  | none => .error .unknownArgument
  | some action => g.apply action (if rest.isEmpty then none else some (.ofList rest.tail))

/-- Switches by their short names, one after another; what follows one that takes
a value is the value, with or without an equals sign. -/
def readShort (grammar : Grammar α) (g : Gathered α) : List Char → Except UsageError (Gathered α)
  | [] => .ok g
  | name :: rest =>
    match grammar.short? name with
    | none => .error .unknownArgument
    | some (.flag set) => do readShort grammar (← g.apply (.flag set) none) rest
    | some (.value set) =>
      match rest with
      | [] => g.apply (.value set) none
      | '=' :: value => g.apply (.value set) (some (.ofList value))
      | value => g.apply (.value set) (some (.ofList value))

/-- Gathers words. After a word of two hyphens only, none is a switch or a
command. -/
def gather (grammar : Grammar α) (trailing : Bool) (g : Gathered α) :
    List String → Except UsageError (Gathered α)
  | [] => .ok g
  | word :: rest =>
    if trailing then do gather grammar true (← g.place word) rest
    else if !g.awaitsValue && grammar.commands.contains word then
      .ok { g with command := some (word, rest) }
    else
      match word.toList with
      | '-' :: '-' :: [] => gather grammar true g rest
      | '-' :: '-' :: name => do gather grammar false (← grammar.readLong g name) rest
      | '-' :: c :: names => do gather grammar false (← grammar.readShort g (c :: names)) rest
      | _ =>
        match g.pending with
        | some ⟨set, none⟩ =>
          gather grammar false { g with pending := some ⟨set, some word⟩ } rest
        | _ => do gather grammar false (← g.place word) rest

/-- Gathers all words, starting from what holds where nothing is written. -/
def start (grammar : Grammar α) (initial : α) (words : List String) :
    Except UsageError (Gathered α) :=
  grammar.gather false ⟨initial, none, grammar.places, none⟩ words

/-- What a command line without a command gathers. -/
def read (grammar : Grammar α) (initial : α) (words : List String) : Except UsageError α := do
  let g ← (← grammar.start initial words).settle
  return g.settled

end Grammar

/-! ## Values -/

/-- The natural number below `2 ^ 64` that a word denotes; a plus sign may stand
in front. -/
def word64? (word : String) : Option Nat :=
  let digits := match word.toList with
    | '+' :: rest => rest
    | digits => digits
  if digits.isEmpty || !digits.all Char.isDigit then none
  else
    let n := Digits.decimal digits
    if n < 0x1_0000_0000_0000_0000 then some n else none

/-- A value that is given at most once. -/
def once {β : Type} (old : Option β) (new : Except UsageError β) : Except UsageError β :=
  if old.isSome then .error .conflict else new

end Specimen.CommandLine
