import Specimen.CommandLine.Arguments
import Specimen.Settings

/-!
# Commands

There are two commands. One prints samples of a schema and the other checks
samples against the schema; both take the same flags for making samples. Before
or after the name of the command stand the flags that every command takes.
-/

namespace Specimen.CommandLine

/-! ## Flags for making samples -/

/-- What a command line says about how samples are made. -/
structure SampleFlags where
  schemaDir : Option Path := none
  seed : Option Nat := none
  /-- How many samples are made, if that is said. -/
  given : Option Nat := none
  strictMultiples : Bool := false
  refScope : Option RefScope := none

namespace SampleFlags

/-- How many samples are made. -/
def count (f : SampleFlags) : Nat := f.given.getD 1

end SampleFlags

/-- A path, which must not be empty. -/
def path (word : String) : Except UsageError Path :=
  if word.isEmpty then .error .invalidValue else .ok ⟨word⟩

def number (word : String) : Except UsageError Nat :=
  match word64? word with
  | some n => .ok n
  | none => .error .unreadableValue

def scope (word : String) : Except UsageError RefScope :=
  match RefScope.ofName? word with
  | some s => .ok s
  | none => .error .invalidValue

/-- The switch that asks for help. -/
def helpSwitch {α : Type} : Switch α := ⟨"help", some 'h', .flag fun _ => .error .help⟩

/-- The switches for making samples, for lines that gather `α` with the flags as
a part. -/
def sampleSwitches {α : Type} (get : α → SampleFlags) (set : α → SampleFlags → α) :
    List (Switch α) :=
  [⟨"schema-dir", none, .value fun a word => do
      let dir ← once (get a).schemaDir (path word)
      return set a { get a with schemaDir := some dir }⟩,
    ⟨"seed", none, .value fun a word => do
      let seed ← once (get a).seed (number word)
      return set a { get a with seed := some seed }⟩,
    ⟨"count", some 'n', .value fun a word => do
      let count ← once (get a).given (number word)
      return set a { get a with given := some count }⟩,
    ⟨"strict-multiple-of", none, .flag fun a =>
      if (get a).strictMultiples then .error .conflict
      else .ok (set a { get a with strictMultiples := true })⟩,
    ⟨"ref-scope", none, .value fun a word => do
      let refScope ← once (get a).refScope (scope word)
      return set a { get a with refScope := some refScope }⟩]

/-- The flags for making samples of a line that holds nothing else. -/
def SampleFlags.read (words : List String) : Except UsageError SampleFlags :=
  let grammar : Grammar SampleFlags :=
    ⟨helpSwitch :: sampleSwitches (fun a => a) (fun _ flags => flags), [], []⟩
  grammar.read {} words

/-! ## Lines of commands -/

/-- What the line of a command gathers. -/
structure Line where
  schema : Option Path := none
  flags : SampleFlags := {}
  pretty : Bool := false
  /-- The configuration file, where it can be named among the words. -/
  configuration : Option Path := none

namespace Line

def prettySwitch : Switch Line :=
  ⟨"pretty", none, .flag fun line =>
    if line.pretty then .error .conflict else .ok { line with pretty := true }⟩

/-- The flags that can stand before and after the name of a command. -/
def sharedSwitches : List (Switch Line) :=
  [⟨"verbose", some 'v', .flag .ok⟩,
    ⟨"config", none, .value fun line word => do
      let configuration ← once line.configuration (path word)
      return { line with configuration := some configuration }⟩]

/-- The grammar of a line that asks for samples of a schema, with some more
switches. -/
def grammar (more : List (Switch Line)) : Grammar Line where
  switches :=
    helpSwitch :: more ++ sampleSwitches (·.flags) (fun line flags => { line with flags })
  places := [fun line word => do return { line with schema := some (← path word) }]
  commands := []

end Line

/-- What a command works on. -/
structure Task where
  schema : Path
  flags : SampleFlags

/-- The task of a line, which must name a schema. -/
def Line.task (line : Line) : Except UsageError Task :=
  match line.schema with
  | some schema => .ok ⟨schema, line.flags⟩
  | none => .error .missingArgument

/-- A command. -/
inductive Command where
  | generate (task : Task) (pretty : Bool)
  | check (task : Task)

namespace Command

/-- What a command works on. -/
def task : Command → Task
  | generate task _ => task
  | check task => task

/-- The command with a name, from the words after it. The switches that every
command takes are there if `shared` says so. -/
def readLine (name : String) (shared : Bool) (words : List String) :
    Except UsageError (Command × Option Path) := do
  let shared := if shared then Line.sharedSwitches else []
  if name = "generate" then
    let line ← (Line.grammar (Line.prettySwitch :: shared)).read {} words
    return (.generate (← line.task) line.pretty, line.configuration)
  else if name = "check" then
    let line ← (Line.grammar shared).read {} words
    return (.check (← line.task), line.configuration)
  else .error .unknownCommand

/-- The command with a name, from the words after it alone. -/
def read (name : String) (words : List String) : Except UsageError Command :=
  (readLine name false words).map (·.1)

end Command

/-! ## Whole lines -/

/-- A command with the configuration file that it uses. -/
structure Invocation where
  command : Command
  configuration : Option Path

namespace Invocation

/-- The flags before the name of the command. -/
def grammar : Grammar Line where
  switches :=
    [helpSwitch, ⟨"version", some 'V', .flag fun _ => .error .version⟩] ++ Line.sharedSwitches
  places := []
  commands := ["generate", "check", "help"]

/-- The words of a line that starts the program. Of two configuration files the
one named after the command counts. -/
def read (words : List String) : Except UsageError Invocation := do
  let g ← grammar.start {} words
  match g.command with
  | none => do
    let _ ← g.settle
    .error .missingCommand
  | some (name, words) =>
    if name = "help" then .error .help
    else
      let (command, configuration) ← Command.readLine name true words
      let g ← g.settle
      return ⟨command, configuration.or g.settled.configuration⟩

end Invocation

end Specimen.CommandLine
