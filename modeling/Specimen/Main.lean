import Specimen.CommandLine.Run
import Specimen.Schema.Reach

/-!
# The program

Runs a command on the files of the system. The command itself is a function of
what the paths read as, so whatever it may ask for is read beforehand: the schema
and the configuration first, which decide where references start from, and then
everything in the reach of the schema's references.
-/

namespace Specimen.CommandLine

/-- What a path has been found to read as. -/
abbrev Found := List (Path × Except ReadFailure String)

/-- The files that have been found; all others are missing. -/
def Found.toFiles (found : Found) : Files := ⟨fun p => (found.lookup p).getD (.error .missing)⟩

/-- What a path of the file system reads as. -/
def readPath (p : Path) : IO (Except ReadFailure String) := do
  try
    match String.fromUTF8? (← IO.FS.readBinFile p.text) with
    | some text => return .ok text
    | none => return .error .notText
  catch
    | .inappropriateType _ 21 _ => return .error .isDirectory
    | .inappropriateType .. => return .error .notDirectory
    | _ => return .error .missing

/-- Reads some paths and what is in their reach. -/
partial def readReach (base : Path) (found : Found) : List Path → IO Found
  | [] => return found
  | p :: rest => do
    if (found.lookup p).isSome then readReach base found rest
    else
      let content ← readPath p
      let more := match content with
        | .ok text => Reference.pathsIn base p text
        | .error _ => []
      readReach base ((p, content) :: found) (more ++ rest)

/-- How often a loop of a sample may go round, and how deep it may descend. -/
def limit : Nat := 10000

/-- Reads whatever a command may ask for. -/
def Invocation.files (entropy : ChaCha) (i : Invocation) : IO Files := do
  let schema := i.command.task.schema
  let mut found : Found := [(schema, ← readPath schema)]
  if let some p := i.configuration then
    found := (p, ← readPath p) :: found
  match Session.start ⟨found.toFiles, entropy, limit⟩ i.command.task i.configuration with
  | .error _ => return found.toFiles
  | .ok session =>
    let base := session.sampler.baseDir
    let needed := (Reference.within session.schema).flatMap (Reference.paths base)
    return (← readReach base found needed).toFiles

end Specimen.CommandLine

open Specimen CommandLine in
/-- Runs the program with the words of its command line. -/
def main (words : List String) : IO UInt32 := do
  let entropy := ChaCha.ofKey 6 (ChaCha.keyOfBytes (← IO.getRandomBytes 32).toList)
  let files ← match Invocation.read words with
    | .ok invocation => invocation.files entropy
    | .error _ => pure ⟨fun _ => .error .missing⟩
  let ending := run ⟨files, entropy, limit⟩ words
  IO.print ending.stdout
  IO.eprint ending.stderr
  return .ofNat ending.exit
