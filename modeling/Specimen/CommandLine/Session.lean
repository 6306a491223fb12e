import Specimen.CommandLine.Configuration
import Specimen.Random.ChaCha
import Specimen.Sampler

/-!
# Sessions

A session is a schema with the sampler for it, made from a schema file, the flags
and a configuration file. Paths in references start from the directory that the
flags name, else from the one that the configuration names, else from the
schema's own.
-/

namespace Specimen.CommandLine

/-! ## Failures -/

/-- Why a command ends early. -/
inductive Failure where
  | configurationUnread (p : Path)
  | configurationUnparsed (p : Path)
  | schemaUnloaded (p : Path) (e : SchemaError)
  /-- Samples cannot be checked against the schema. -/
  | schemaUnusable (p : Path)
  | sampleFailed (number : Nat) (e : SchemaError)
  /-- A sample did not end within the limit. -/
  | sampleEndless (number : Nat)

namespace Failure

def message : Failure → String
  | configurationUnread p => "failed to read config " ++ p.text
  | configurationUnparsed p => "failed to parse config " ++ p.text
  | schemaUnloaded p _ => "failed to load schema " ++ p.text
  | schemaUnusable p => p.text ++ " is not a valid schema"
  | sampleFailed number _ => "failed to generate value " ++ toString number
  | sampleEndless number => "failed to generate value " ++ toString number

/-- The failure of the sampler behind a failure. -/
def cause? : Failure → Option SchemaError
  | schemaUnloaded _ e => some e
  | sampleFailed _ e => some e
  | _ => none

/-- The failure of a sample with a number. -/
def ofStop (number : Nat) : Stop SchemaError → Failure
  | .failed e => sampleFailed number e
  | .endless => sampleEndless number

end Failure

/-! ## Configurations -/

/-- The configuration in a file; without a file it is the usual one. -/
def Configuration.load (files : Files) : Option Path → Except Failure Configuration
  | none => .ok {}
  | some p =>
    match files.read p with
    | .error _ => .error (.configurationUnread p)
    | .ok text =>
      match Configuration.read? text with
      | some c => .ok c
      | none => .error (.configurationUnparsed p)

/-! ## Sessions -/

/-- What a command works with. -/
structure Environment where
  files : Files
  /-- The source of samples where no seed is given. -/
  entropy : ChaCha
  /-- How often a loop of a sample may go round, and how deep it may descend. -/
  limit : Nat

/-- A schema and how it is sampled. -/
structure Session where
  schema : Json
  sampler : Sampler
  source : ChaCha
  limit : Nat

namespace Session

/-- The session of a task. -/
def start (env : Environment) (task : Task) (configuration : Option Path) :
    Except Failure Session := do
  let c ← Configuration.load env.files configuration
  let c := c.override task.flags
  let loader := Loader.ofFiles env.files
  match loader.load task.schema with
  | .error e => .error (.schemaUnloaded task.schema e)
  | .ok schema =>
    let settings := { c.settings with schemaDir := c.settings.schemaDir.or task.schema.parent? }
    let source := match c.seed with
      | some seed => ChaCha.ofSeed (UInt64.ofNat seed)
      | none => env.entropy
    return ⟨schema, (Sampler.ofLoader loader).withSettings settings, source, env.limit⟩

/-- The first samples, and the failure that ended them if there is one. -/
def samples (s : Session) (count : Nat) : List Json × Option Failure :=
  let (values, stop) := (s.sampler.sample s.schema).series s.limit count s.source
  (values, stop.map (Failure.ofStop (values.length + 1)))

end Session

end Specimen.CommandLine
