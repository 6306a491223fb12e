import Specimen.Sampler

/-!
# A sampler in use

A sampler is called again and again. Some calls change what later samples are made
with, some ask for a sample and take words from the source, and a call for the schema
at a path does both. A call that fails leaves the words it took taken.
-/

namespace Specimen

/-- What a sampler in use is called for. -/
inductive Call where
  /-- Other settings for what follows. -/
  | settings (settings : Settings)
  /-- Other documents for what follows. -/
  | loader (loader : Loader)
  /-- A sample of a schema, inside another if there is one around it. -/
  | sample (schema : Json) (parent : Option Json)
  /-- A sample of the schema at a path. -/
  | file (p : Path)

namespace Sampler

/-- The sampler that is left after a call. Whether a sample was made does not count,
only whether the schema at a path was found. -/
def after (s : Sampler) : Call → Sampler
  | .settings settings => s.withSettings settings
  | .loader loader => s.withLoader loader
  | .sample _ _ => s
  | .file p =>
    match s.openFile p with
    | .ok (_, s) => s
    | .error _ => s

variable {σ : Type} [Source σ]

/-- The sample that a call asks for, if it asks for one. -/
def answer (s : Sampler) : Call → Draw σ SchemaError (Option Json)
  | .settings _ => pure none
  | .loader _ => pure none
  | .sample schema parent => do return some (← s.sampleWithin schema parent)
  | .file p => do
    let (schema, s) ← Draw.ofExcept (s.openFile p)
    return some (← s.sample schema)

/-- A sampler in use: the sampler and what is left of its source. -/
structure InUse (σ : Type) where
  sampler : Sampler
  source : σ

/-- Makes a call: how it ends, and the sampler in use that is left. -/
def InUse.call (u : InUse σ) (limit : Nat) (c : Call) :
    Except (Stop SchemaError) (Option Json) × InUse σ :=
  let (result, source) := (u.sampler.answer c).run limit u.source
  (result, ⟨u.sampler.after c, source⟩)

/-- The sampler in use that is left after some calls. -/
def InUse.calls (u : InUse σ) (limit : Nat) (cs : List Call) : InUse σ :=
  cs.foldl (fun u c => (u.call limit c).2) u

end Sampler

end Specimen
