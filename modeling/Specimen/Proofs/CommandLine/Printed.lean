import Specimen.Proofs.CommandLine.EntryPoints
import Specimen.Proofs.Json.Lines
import Specimen.Proofs.Sampler.Valid

/-!
# Printed samples read back

The schema of a session is a loaded document, and so is whatever it refers to, so its samples
are valid documents (`Session.isValid_of_results`). What a command prints of them is therefore
read as them and as nothing else, line by line or block by block, and two commands that print
the same text have made the same samples (`generate_readsBack`).
-/

namespace Specimen

namespace Draw

variable {σ ε α : Type} {x : Draw σ ε α} {Q : α → Prop} {E : ε → Prop}

/-- What a draw ensures holds each time that it is made. -/
theorem Ensures.of_mem_results (h : Ensures x Q E) {limit : Nat} {a : α} (count : Nat) :
    ∀ s : σ, .ok a ∈ x.results limit count s → Q a := by
  induction count with
  | zero => exact nofun
  | succ count ih =>
      intro s hmem
      rcases List.mem_cons.mp hmem with hfirst | hmem
      · exact h.value (Prod.ext hfirst.symm rfl)
      · exact ih _ hmem

end Draw

namespace CommandLine

variable {env : Environment} {task : Task} {configuration : Option Path} {session : Session}

/-! ## Samples of a session -/

namespace Session

/-- A session that works with valid documents. -/
structure IsValid (s : Session) : Prop where
  schema : s.schema.IsValid
  loader : s.sampler.loader.LoadsValid

theorem isValid_of_start (h : start env task configuration = .ok session) : session.IsValid := by
  unfold start at h
  cases hconfiguration : Configuration.load env.files configuration with
  | error failure =>
      rw [hconfiguration] at h
      cases h
  | ok c =>
      rw [hconfiguration] at h
      dsimp only [bind, Except.bind] at h
      split at h
      · cases h
      · next schema hload =>
          cases h
          exact ⟨Loader.loadsValid_ofFiles env.files _ schema hload,
            Loader.loadsValid_ofFiles env.files⟩

theorem IsValid.of_mem_results (h : session.IsValid) {count : Nat} {v : Json}
    (hv : .ok v ∈ session.results count) : v.IsValid :=
  (session.sampler.sample_isValid h.loader h.schema).of_mem_results count _ hv

/-- The first samples of a session are the values, up to one that fails if there is one. -/
def Makes (s : Session) (count : Nat) (values : List Json) : Prop :=
  ∃ tail : List (Except (Stop SchemaError) Json), s.results count = values.map .ok ++ tail
    ∧ ∀ v, tail.head? ≠ some (.ok v)

variable {count : Nat} {values others : List Json}

theorem IsValid.of_makes (h : session.IsValid) (hmakes : session.Makes count values) :
    ∀ v ∈ values, v.IsValid := by
  obtain ⟨tail, hresults, -⟩ := hmakes
  intro v hv
  have hmem : .ok v ∈ session.results count := by
    rw [hresults]
    exact List.mem_append_left _ (List.mem_map_of_mem hv)
  exact h.of_mem_results hmem

theorem Makes.unique (h : session.Makes count values) (hothers : session.Makes count others) :
    others = values := by
  obtain ⟨tail, hresults, htail⟩ := h
  obtain ⟨tail', hresults', htail'⟩ := hothers
  have hsame := hresults.symm.trans hresults'
  have hvalues := Draw.isPrefix_of_map_ok htail' (hsame ▸ List.prefix_append ..)
  have hothers := Draw.isPrefix_of_map_ok htail (hsame.symm ▸ List.prefix_append ..)
  exact hothers.eq_of_length_le hvalues.length_le

end Session

/-! ## What is printed -/

/-- What a command prints are the values that its session makes. -/
theorem stdout_of_makes {values : List Json} {count : Nat}
    (h : Session.start env task configuration = .ok session) (hmakes : session.Makes count values)
    (pretty : Bool) :
    (generateEnding env task pretty configuration count).stdout
      = .ofList (Json.writeAll pretty values) := by
  obtain ⟨printed, tail, hresults, htail, hstdout⟩ := generateEnding_stdout h pretty count
  rw [hstdout, hmakes.unique ⟨tail, hresults, htail⟩]

/-- Every command that prints the text has made the values. -/
def Tells (text : String) (values : List Json) : Prop :=
  ∀ (env : Environment) (task : Task) (configuration : Option Path) (session : Session)
    (pretty : Bool) (count : Nat) (others : List Json),
    Session.start env task configuration = .ok session → session.Makes count others →
    (generateEnding env task pretty configuration count).stdout = text → others = values

/-- The values that a session makes are read back from what is printed of them, and they
alone are printed as this text. -/
theorem generate_readsBack (h : Session.start env task configuration = .ok session)
    (pretty : Bool) (count : Nat) :
    ∃ values, session.Makes count values
      ∧ Json.ReadsBack pretty values
          (generateEnding env task pretty configuration count).stdout.toList
      ∧ Tells (generateEnding env task pretty configuration count).stdout values := by
  obtain ⟨values, tail, hresults, htail, hstdout⟩ := generateEnding_stdout h pretty count
  have hmakes : session.Makes count values := ⟨tail, hresults, htail⟩
  have hvalues := (Session.isValid_of_start h).of_makes hmakes
  have hreads := Json.readsBack_writeAll pretty hvalues
  refine ⟨values, hmakes, ?_, ?_⟩
  · rw [hstdout, String.toList_ofList]
    exact hreads
  · intro env' task' configuration' session' pretty' count' others h' hothers hsame
    rw [stdout_of_makes h' hothers pretty', hstdout] at hsame
    exact hreads.only pretty' others ((Session.isValid_of_start h').of_makes hothers)
      (String.ofList_injective hsame)

/-- A schema with one value: strings that are escaped, numbers of both sorts and a container
with nothing in it. -/
def constant : Environment where
  files := (FileTree.ofList [(⟨"schema.json"⟩,
    "\x7b\"const\": \x7b\"a\\nb\": [1, 1.0, \"\\\"\", []]\x7d\x7d")]).toFiles
  entropy := ChaCha.ofSeed 0
  limit := 3

/-- Samples of the schema with one value. -/
def constants : Task where
  schema := ⟨"schema.json"⟩
  flags := { seed := some 7 }

theorem generate_readsBack_constant :
    (generateEnding constant constants true none 2).stdout
        = "\x7b\n  \"a\\nb\": [\n    1,\n    1.0,\n    \"\\\"\",\n    []\n  ]\n\x7d\n"
          ++ "\n\x7b\n  \"a\\nb\": [\n    1,\n    1.0,\n    \"\\\"\",\n    []\n  ]\n\x7d\n"
      ∧ ∃ session, Session.start constant constants none = .ok session
        ∧ ∃ values, session.Makes 2 values
          ∧ Json.ReadsBack true values (generateEnding constant constants true none 2).stdout.toList
          ∧ Tells (generateEnding constant constants true none 2).stdout values := by
  refine ⟨by decide +kernel, ?_⟩
  have hread : ((Loader.ofFiles constant.files).load constants.schema).toOption.isSome = true := by
    decide +kernel
  cases hload : (Loader.ofFiles constant.files).load constants.schema with
  | error e =>
      rw [hload] at hread
      cases hread
  | ok schema =>
      have hseeded : IsSeeded constant constants none {} 7 schema := ⟨hload, {}, rfl, rfl, rfl⟩
      have hstart := hseeded.start
      exact ⟨_, hstart, generate_readsBack hstart true 2⟩

end CommandLine

end Specimen
