import Specimen.Proofs.CommandLine.Output
import Specimen.Proofs.Draw.Ensures
import Specimen.Proofs.Sampler.Calls

/-!
# One stream of samples at every entry point

The commands open a session: the schema is read once, and the directory that paths start
from is made one of the settings. A sampler in use that is called for the schema at a path
reads it each time, and where no directory is set it goes to the schema's own without
setting it. The two start from the same directory (`openFile_withSettings`) and nothing
but the directory is asked of the settings for it (`sample_withSchemaDir`), so the samples
of a session are those of the calls, one after another (`repeated_file`).

The commands show this stream up to the first sample that fails: as documents or as counts
(`entryPoints_agree`).
-/

namespace Specimen

namespace Sampler

open Draw

/-! ## Settings that samples do not ask for -/

/-- The sampler with another directory among its settings, but not made to start from it. -/
def withSchemaDir (s : Sampler) (dir : Option Path) : Sampler :=
  { s with settings := { s.settings with schemaDir := dir } }

variable {σ : Type} [Source σ]

theorem step_withSchemaDir (s : Sampler) (dir : Option Path) (descend : Descent σ) :
    (s.withSchemaDir dir).step descend = s.step descend := rfl

theorem value_withSchemaDir (s : Sampler) (dir : Option Path) (depth : Nat) :
    ((s.withSchemaDir dir).value depth : Descent σ) = s.value depth := by
  induction depth with
  | zero => rfl
  | succ depth ih =>
      show (s.withSchemaDir dir).step ((s.withSchemaDir dir).value depth) = s.step (s.value depth)
      rw [ih, step_withSchemaDir]

/-- Samples start from the directory of the sampler and not from the one of its settings. -/
theorem sample_withSchemaDir (s : Sampler) (dir : Option Path) (schema : Json) :
    ((s.withSchemaDir dir).sample schema : Draw σ SchemaError Json) = s.sample schema := by
  unfold sample sampleWithin
  simp only [value_withSchemaDir]

/-! ## Repeated calls -/

/-- How a call ends, each time it is made on the sampler in use that the last time has left. -/
def InUse.repeated (u : InUse σ) (limit : Nat) (c : Call) :
    Nat → List (Except (Stop SchemaError) (Option Json))
  | 0 => []
  | count + 1 => (u.call limit c).1 :: InUse.repeated (u.call limit c).2 limit c count

variable {s s' : Sampler} {p : Path} {schema : Json}

/-- What is found at a path is found there again, and changes nothing more. -/
theorem openFile_again (h : s.openFile p = .ok (schema, s')) :
    s'.openFile p = .ok (schema, s') := by
  have hs' := openFile_eq_ok h
  unfold openFile at h ⊢
  split at h
  · next hhas =>
      split at h
      · cases h
      · next hload =>
          cases h
          rw [if_pos hhas, hload]
          dsimp only
          split
          · cases p.parent? <;> rfl
          · rfl
  · cases h

theorem run_answer_file (h : s.openFile p = .ok (schema, s')) (limit : Nat) (source : σ) :
    (s.answer (.file p) : Draw σ SchemaError (Option Json)).run limit source
      = (((s'.sample schema).run limit source).1.map some,
          ((s'.sample schema).run limit source).2) := by
  have hanswer : (s.answer (.file p) : Draw σ SchemaError (Option Json))
      = s'.sample schema >>= fun v => pure (some v) := by
    simp only [answer, h]
    rfl
  rw [hanswer]
  rcases hrun : (s'.sample schema).run limit source with ⟨_ | v, rest⟩
  · exact run_bind_of_error hrun
  · exact run_bind_of_ok hrun

/-- Called for the schema at a path again and again, a sampler gives the samples of one
sampler for one schema. -/
theorem repeated_file (limit : Nat) (count : Nat) : ∀ {s : Sampler} (source : σ),
    s.openFile p = .ok (schema, s') →
    InUse.repeated ⟨s, source⟩ limit (.file p) count
      = ((s'.sample schema).results limit count source).map (Except.map some) := by
  induction count with
  | zero => exact fun _ _ => rfl
  | succ count ih =>
      intro s source h
      have hcall : (⟨s, source⟩ : InUse σ).call limit (.file p)
          = (((s'.sample schema).run limit source).1.map some,
              ⟨s', ((s'.sample schema).run limit source).2⟩) := by
        unfold InUse.call
        rw [run_answer_file h, after_file_ok h]
      unfold InUse.repeated
      rw [hcall, ih _ (openFile_again h)]
      rfl

end Sampler

namespace CommandLine

open Sampler

/-! ## The two starting points -/

/-- A sampler in use with the documents in files, some settings and a seed. -/
def seeded (files : Files) (settings : Settings) (seed : Nat) : InUse ChaCha :=
  ⟨(ofLoader (Loader.ofFiles files)).withSettings settings, ChaCha.ofSeed (UInt64.ofNat seed)⟩

variable {env : Environment} {task : Task} {configuration : Option Path}
variable {c : Configuration} {schema : Json} {seed : Nat}

theorem has_of_load {files : Files} {p : Path} (h : (Loader.ofFiles files).load p = .ok schema) :
    (Loader.ofFiles files).has p = true := by
  unfold Loader.ofFiles Files.isFile at *
  dsimp only at *
  cases hread : files.read p with
  | ok text => rfl
  | error reason =>
      rw [hread] at h
      cases h

/-- The directory that a session sets is the one that a schema at a path is found in. -/
theorem openFile_withSettings {files : Files} (settings : Settings) {p : Path}
    (h : (Loader.ofFiles files).load p = .ok schema) :
    ∃ s, ((ofLoader (Loader.ofFiles files)).withSettings settings).openFile p = .ok (schema, s)
      ∧ (ofLoader (Loader.ofFiles files)).withSettings
          { settings with schemaDir := settings.schemaDir.or p.parent? }
        = s.withSchemaDir (settings.schemaDir.or p.parent?) := by
  unfold openFile withSettings ofLoader
  dsimp only
  rw [if_pos (has_of_load h), h]
  refine ⟨_, rfl, ?_⟩
  unfold withSchemaDir
  cases settings.schemaDir with
  | some d => rfl
  | none => cases p.parent? <;> rfl

/-- A task whose schema is found and whose samples are drawn from a seed. -/
structure IsSeeded (env : Environment) (task : Task) (configuration : Option Path)
    (settings : Settings) (seed : Nat) (schema : Json) : Prop where
  loaded : (Loader.ofFiles env.files).load task.schema = .ok schema
  configured : ∃ c, Configuration.load env.files configuration = .ok c
    ∧ (c.override task.flags).settings = settings ∧ (c.override task.flags).seed = some seed

variable {settings : Settings}

theorem IsSeeded.start (h : IsSeeded env task configuration settings seed schema) :
    Session.start env task configuration = .ok ⟨schema,
      (ofLoader (Loader.ofFiles env.files)).withSettings
        { settings with schemaDir := settings.schemaDir.or task.schema.parent? },
      ChaCha.ofSeed (UInt64.ofNat seed), env.limit⟩ := by
  obtain ⟨hload, c, hconfiguration, rfl, hseed⟩ := h
  simp only [Session.start, hconfiguration, bind, Except.bind, hload, hseed]
  rfl

/-- The samples of a session are those of the calls for its schema. -/
theorem IsSeeded.results (h : IsSeeded env task configuration settings seed schema)
    (count : Nat) :
    ∃ session, Session.start env task configuration = .ok session ∧ session.schema = schema
      ∧ (seeded env.files settings seed).repeated env.limit (.file task.schema) count
        = (session.results count).map (Except.map some) := by
  obtain ⟨s, hopen, hsession⟩ := openFile_withSettings settings h.loaded
  refine ⟨_, h.start, rfl, ?_⟩
  unfold seeded Session.results
  rw [repeated_file env.limit count _ hopen, hsession, sample_withSchemaDir]

/-! ## What the entry points show -/

/-- A stream of samples as the entry points show it: some values and perhaps a sample that
is none after them. -/
structure ShowsStream (env : Environment) (task : Task) (configuration : Option Path)
    (settings : Settings) (seed : Nat) (schema : Json) (values : List Json)
    (stop? : Option (Stop SchemaError)) : Prop where
  /-- Calls for the schema at its path end with the values and then stop. -/
  called : ∃ later, (seeded env.files settings seed).repeated env.limit (.file task.schema)
      task.flags.count = values.map (fun v => .ok (some v)) ++ (stop?.map .error).toList ++ later
    ∧ (stop? = none → later = [])
  /-- The documents of the values are printed, and the failure is that of the next sample. -/
  printed : ∀ pretty, generate env task pretty configuration
    = ⟨.ofList (Json.writeAll pretty values), stop?.map (Failure.ofStop (values.length + 1))⟩
  /-- The values are held against the schema, or the same sample fails. -/
  checked : ∀ validator, Validation.Validator.ofDocument? schema = some validator →
    check env task configuration = match stop? with
      | none => .ok ⟨values.length, (values.filter fun v => !validator.accepts v).length⟩
      | some stop => .error (Failure.ofStop (values.length + 1) stop)

/-- A seed gives one stream of samples, which all entry points show alike: as many values as
are asked for, or those before the first sample that is none. -/
theorem entryPoints_agree (h : IsSeeded env task configuration settings seed schema) :
    ∃ values stop?, ShowsStream env task configuration settings seed schema values stop?
      ∧ (stop? = none → values.length = task.flags.count) := by
  obtain ⟨session, hstart, rfl, hcalls⟩ := h.results task.flags.count
  rcases session.results_cases task.flags.count with
    ⟨values, hresults⟩ | ⟨values, stop, rest, hresults⟩
  · have hlength := session.length_results task.flags.count
    rw [hresults, List.length_map] at hlength
    refine ⟨values, none, ⟨⟨[], ?_, fun _ => rfl⟩, fun pretty => ?_, fun validator hvalidator => ?_⟩,
      fun _ => hlength⟩
    · rw [hcalls, hresults]
      simp [Except.map]
    · simp only [generate, hstart, Session.samples_of_values hresults, Option.map_none]
    · exact check_of_checked ⟨session, hstart, hvalidator, hresults⟩
  · have hstopped {P : Prop} (h : some stop = none) : P := absurd h (Option.some_ne_none stop)
    refine ⟨values, some stop, ⟨⟨rest.map (Except.map some), ?_, hstopped⟩, fun pretty => ?_,
      fun validator hvalidator => ?_⟩, hstopped⟩
    · rw [hcalls, hresults]
      simp [Except.map]
    · simp only [generate, hstart, Session.samples_of_stop hresults, Option.map_some]
    · simp only [check, hstart, bind, Except.bind, hvalidator, Session.samples_of_stop hresults]

/-- A schema that refers to its neighbour, with no directory set. -/
def linked : Environment where
  files := (FileTree.ofList [(⟨"sub/root.json"⟩, "\x7b\"$ref\": \"leaf.json\"\x7d"),
    (⟨"sub/leaf.json"⟩, "\x7b\"const\": 2\x7d")]).toFiles
  entropy := ChaCha.ofSeed 0
  limit := 3

/-- Two samples of the schema that refers to its neighbour. -/
def twice : Task where
  schema := ⟨"sub/root.json"⟩
  flags := { seed := some 7, given := some 2 }

theorem entryPoints_agree_linked :
    (generate linked twice false none).text = "2\n2\n"
      ∧ ∃ schema, IsSeeded linked twice none {} 7 schema
        ∧ ∃ values stop?, ShowsStream linked twice none {} 7 schema values stop?
          ∧ (stop? = none → values.length = twice.flags.count) := by
  refine ⟨by decide +kernel, ?_⟩
  have hread : ((Loader.ofFiles linked.files).load twice.schema).toOption.isSome = true := by
    decide +kernel
  cases hload : (Loader.ofFiles linked.files).load twice.schema with
  | error e =>
      rw [hload] at hread
      cases hread
  | ok schema =>
      have h : IsSeeded linked twice none {} 7 schema := ⟨hload, {}, rfl, rfl, rfl⟩
      exact ⟨schema, h, entryPoints_agree h⟩

end CommandLine

end Specimen
