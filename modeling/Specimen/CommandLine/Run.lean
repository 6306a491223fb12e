import Specimen.CommandLine.Session
import Specimen.Validation.Validator

/-!
# Running commands

What the commands print and how they end. Samples are printed as they are made,
so those before a failure are printed; the outcome of a check is printed only when
all samples have been made.
-/

namespace Specimen.CommandLine

/-! ## Printed samples -/

/-- What was printed before a command ended. -/
structure Printed where
  text : String
  failure : Option Failure

/-- Prints the samples of a task. -/
def generate (env : Environment) (task : Task) (pretty : Bool) (configuration : Option Path) :
    Printed :=
  match Session.start env task configuration with
  | .error failure => ⟨"", some failure⟩
  | .ok session =>
    let (values, failure) := session.samples task.flags.count
    ⟨.ofList (Json.writeAll pretty values), failure⟩

/-! ## Checked samples -/

/-- How many samples were made and how many are no instances of their schema. -/
structure Report where
  generated : Nat
  invalid : Nat
deriving DecidableEq

/-- Checks the samples of a task against their schema. -/
def check (env : Environment) (task : Task) (configuration : Option Path) :
    Except Failure Report := do
  let session ← Session.start env task configuration
  match Validation.Validator.ofDocument? session.schema with
  | none => .error (.schemaUnusable task.schema)
  | some validator =>
    match session.samples task.flags.count with
    | (_, some failure) => .error failure
    | (values, none) =>
      return ⟨values.length, (values.filter fun v => !validator.accepts v).length⟩

namespace Report

/-- The line that a report is printed as. -/
def line (r : Report) (schema : Path) : String :=
  schema.text ++ ": " ++ toString (r.generated - r.invalid) ++ "/" ++ toString r.generated ++
    " generated values valid\n"

end Report

/-! ## The program -/

/-- How the program ended. -/
structure Ending where
  exit : Nat
  stdout : String
  /-- What is reported next to the output. -/
  stderr : String
deriving DecidableEq

/-- The text of a failure. -/
def Failure.report (f : Failure) : String :=
  match f.cause? with
  | some e => f.message ++ ": " ++ e.message ++ "\n"
  | none => f.message ++ "\n"

/-- How the program is used. -/
def usage : String :=
  "Usage: specimen [-v] [--config <FILE>] generate <SCHEMA> [FLAGS] [--pretty]\n" ++
  "       specimen [-v] [--config <FILE>] check <SCHEMA> [FLAGS]\n\n" ++
  "Makes random JSON documents that conform to a JSON Schema, or checks such documents.\n\n" ++
  "Flags:\n" ++
  "      --schema-dir <DIR>     the directory that external references start from\n" ++
  "      --seed <SEED>          the seed for reproducible output\n" ++
  "  -n, --count <COUNT>        how many documents are made (1 if not given)\n" ++
  "      --strict-multiple-of   keep multiples inside the bounds\n" ++
  "      --ref-scope <SCOPE>    where inline references start: enclosing or document\n"

/-- Runs a command. -/
def Invocation.run (env : Environment) (i : Invocation) : Ending :=
  match i.command with
  | .generate task pretty =>
    let printed := generate env task pretty i.configuration
    match printed.failure with
    | none => ⟨0, printed.text, ""⟩
    | some failure => ⟨1, printed.text, failure.report⟩
  | .check task =>
    match check env task i.configuration with
    | .ok report => ⟨if report.invalid = 0 then 0 else 1, report.line task.schema, ""⟩
    | .error failure => ⟨1, "", failure.report⟩

/-- Runs the program with the words of its command line. -/
def run (env : Environment) (words : List String) : Ending :=
  match Invocation.read words with
  | .ok invocation => invocation.run env
  | .error .help => ⟨0, usage, ""⟩
  | .error .version => ⟨0, "specimen 0.1.0\n", ""⟩
  | .error _ => ⟨2, "", usage⟩

end Specimen.CommandLine
