import Specimen.Calls
import Specimen.Random.Scripted

/-!
# The directory that a sampler in use is left with

Paths in references start from the directory of the settings or, for a schema at a path,
from its own. Where there is neither they start from the directory that an earlier call
has left: the last one that was set or that a schema was found in (`answer_startsFrom`).
So what was done before can change where the references of a sample lead
(`answer_leftDirectory`); whether the samples before were made or failed never does.
-/

namespace Specimen.Sampler

/-! ## Directories that calls leave -/

/-- The directory that a call leaves behind, if it leaves another one. -/
def directoryLeft (s : Sampler) : Call → Option Path
  | .settings settings => settings.schemaDir
  | .loader _ => none
  | .sample _ _ => none
  | .file p =>
    match s.openFile p with
    | .ok _ => if s.settings.schemaDir.isNone then p.parent? else none
    | .error _ => none

/-- The directories that calls leave behind, one call after another. -/
def directoriesLeft (s : Sampler) : List Call → List Path
  | [] => []
  | c :: rest => (s.directoryLeft c).toList ++ directoriesLeft (s.after c) rest

/-- A schema that is found at a path is sampled with the same settings and documents, and
from its own directory unless one is set. -/
theorem openFile_eq_ok {s s' : Sampler} {p : Path} {schema : Json}
    (h : s.openFile p = .ok (schema, s')) :
    s' = { s with baseDir :=
      if s.settings.schemaDir.isNone then p.parent?.getD s.baseDir else s.baseDir } := by
  unfold openFile at h
  split at h
  · split at h
    · cases h
    · cases h
      rfl
  · cases h

theorem after_file_ok {s s' : Sampler} {p : Path} {schema : Json}
    (h : s.openFile p = .ok (schema, s')) : s.after (.file p) = s' := by
  simp only [after, h]

theorem after_file_error {s : Sampler} {p : Path} {e : SchemaError}
    (h : s.openFile p = .error e) : s.after (.file p) = s := by
  simp only [after, h]

/-- A call changes the directory to the one that it leaves. -/
theorem baseDir_after (s : Sampler) (c : Call) :
    (s.after c).baseDir = (s.directoryLeft c).getD s.baseDir := by
  cases c with
  | settings settings => rfl
  | loader loader => rfl
  | sample schema parent => rfl
  | file p =>
      cases hopen : s.openFile p with
      | error e => simp only [after_file_error hopen, directoryLeft, hopen, Option.getD_none]
      | ok opened =>
          simp only [after_file_ok hopen, directoryLeft, hopen, openFile_eq_ok hopen]
          split <;> rfl

theorem settings_after_file (s : Sampler) (p : Path) :
    (s.after (.file p)).settings = s.settings := by
  cases hopen : s.openFile p with
  | error e => rw [after_file_error hopen]
  | ok opened => rw [after_file_ok hopen, openFile_eq_ok hopen]

/-- A directory that the settings name is the one that paths start from. -/
def KeepsSchemaDir (s : Sampler) : Prop := ∀ d, s.settings.schemaDir = some d → s.baseDir = d

theorem KeepsSchemaDir.after {s : Sampler} (h : s.KeepsSchemaDir) (c : Call) :
    (s.after c).KeepsSchemaDir := by
  intro d hd
  rw [baseDir_after]
  cases c with
  | settings settings =>
      have hset : settings.schemaDir = some d := hd
      exact congrArg (Option.getD · s.baseDir) hset
  | loader loader => exact h d hd
  | sample schema parent => exact h d hd
  | file p =>
      rw [settings_after_file] at hd
      have hleft : s.directoryLeft (.file p) = none := by
        simp only [directoryLeft, hd]
        split <;> rfl
      rw [hleft]
      exact h d hd

/-! ## Runs of calls -/

theorem baseDir_foldl_after (cs : List Call) :
    ∀ s : Sampler, (cs.foldl after s).baseDir = (s.directoriesLeft cs).getLast?.getD s.baseDir := by
  induction cs with
  | nil => exact fun s => rfl
  | cons c rest ih =>
      intro s
      rw [List.foldl_cons, ih, baseDir_after, directoriesLeft, List.getLast?_append]
      cases (directoriesLeft (s.after c) rest).getLast? with
      | some d => rfl
      | none => cases s.directoryLeft c <;> rfl

theorem KeepsSchemaDir.foldl_after (cs : List Call) {s : Sampler} (h : s.KeepsSchemaDir) :
    (cs.foldl Sampler.after s).KeepsSchemaDir := by
  induction cs generalizing s with
  | nil => exact h
  | cons c rest ih => exact ih (h.after c)

variable {σ : Type} [Source σ]

/-- How the samples end makes no difference to the sampler that is left. -/
theorem sampler_calls (limit : Nat) (cs : List Call) :
    ∀ u : InUse σ, (u.calls limit cs).sampler = cs.foldl after u.sampler := by
  induction cs with
  | nil => exact fun u => rfl
  | cons c rest ih => exact fun u => ih (u.call limit c).2

/-! ## Where the paths of a sample start -/

/-- The sampler with another directory that paths start from. -/
def startingFrom (s : Sampler) (dir : Path) : Sampler := { s with baseDir := dir }

/-- A sample is made with the directory of the settings, else with that of its own file,
else with the last one that a call has left. -/
theorem answer_startsFrom (limit : Nat) (loader : Loader) (source : σ) (cs : List Call) :
    let s := ((⟨ofLoader loader, source⟩ : InUse σ).calls limit cs).sampler
    let left := ((ofLoader loader).directoriesLeft cs).getLast?.getD ⟨"."⟩
    (∀ schema parent, (s.answer (.sample schema parent) : Draw σ SchemaError (Option Json)) = do
        return some (← (s.startingFrom (s.settings.schemaDir.getD left)).sampleWithin schema parent))
      ∧ ∀ p, (s.answer (.file p) : Draw σ SchemaError (Option Json)) = do
        let (schema, _) ← Draw.ofExcept (s.openFile p)
        return some (← (s.startingFrom
          (s.settings.schemaDir.getD (p.parent?.getD left))).sample schema) := by
  intro s left
  have hs : s = cs.foldl after (ofLoader loader) := sampler_calls limit cs _
  have hleft : s.baseDir = left := hs ▸ baseDir_foldl_after cs (ofLoader loader)
  have hfresh : (ofLoader loader).KeepsSchemaDir := fun d hd => by cases hd
  have hkeeps : s.KeepsSchemaDir := hs ▸ hfresh.foldl_after cs
  have hbase : s.settings.schemaDir.getD left = s.baseDir := by
    cases hd : s.settings.schemaDir with
    | none => exact hleft.symm
    | some d => exact (hkeeps d hd).symm
  refine ⟨fun schema parent => ?_, fun p => ?_⟩
  · rw [hbase]
    rfl
  · simp only [answer]
    cases hopen : s.openFile p with
    | error e => rfl
    | ok opened =>
        have hfile : opened.2 = s.startingFrom (s.settings.schemaDir.getD (p.parent?.getD left)) := by
          rw [openFile_eq_ok hopen, startingFrom, ← hleft]
          cases hd : s.settings.schemaDir with
          | none => rfl
          | some d => rw [← hkeeps d hd]; rfl
        show (do return some (← opened.2.sample opened.1)) = _
        rw [hfile]
        rfl

/-! ## A directory that is left -/

/-- Documents of one name in the current directory and below it, next to a schema in the
latter. -/
def leaves : DocumentTable :=
  ⟨[(⟨"./leaf.json"⟩, .object [("const", .number (.int 1))]),
    (⟨"sub/leaf.json"⟩, .object [("const", .number (.int 2))]),
    (⟨"sub/root.json"⟩, Kind.null.toSchema)]⟩

/-- After a sample of the schema in a directory, the paths of a sample that comes from no
file start there, although no directory is set. -/
theorem answer_leftDirectory :
    let fresh : InUse Scripted := ⟨ofLoader leaves.toLoader, ⟨[], 0⟩⟩
    let used := fresh.calls 2 [.file ⟨"sub/root.json"⟩]
    let reference : Call := .sample (.object [("$ref", .string "leaf.json")]) none
    used.sampler.settings.schemaDir = none
      ∧ (fresh.call 2 reference).1 = .ok (some (.number (.int 1)))
      ∧ (used.call 2 reference).1 = .ok (some (.number (.int 2))) := by
  refine ⟨rfl, ?_, ?_⟩ <;> rfl

end Specimen.Sampler
