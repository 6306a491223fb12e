import Specimen.Proofs.Random.Ending
import Specimen.Proofs.Schema.Overlaid

/-!
# What overlaying comes to

Overlaying a node that holds branches fails just if one of the chosen branches is no object,
and otherwise gives a node (`resolve_overlays`). Which branches are chosen is settled before
any of them is looked at, so the choice is there even where the overlaying fails.

Only choosing among `anyOf` and `oneOf` takes words, and can go on for ever on a source
that stalls. All branches of `allOf` are chosen without a draw.
-/

namespace Specimen.Overlay

open Draw

/-- The branches that are chosen from, where not all of them are taken. -/
def offered (node : Node) : List Json :=
  match node.array? "anyOf" with
  | some any => any
  | none => (node.array? "oneOf").getD []

/-- Layers can be laid over fields unless one of them is no object. -/
theorem layAll_cases (layers : List Json) (fields : Fields) :
    (∃ merged, layAll fields layers = .ok merged ∧ ∀ layer ∈ layers, layer.isObject = true)
      ∨ ∃ e : SchemaError, layAll fields layers = .error e ∧ e.category = .malformedSchema
        ∧ ∃ layer ∈ layers, layer.isObject = false := by
  induction layers generalizing fields with
  | nil => exact .inl ⟨fields, rfl, by simp⟩
  | cons layer rest ih =>
      cases layer with
      | object branch =>
          rcases ih (lay fields branch) with ⟨merged, hok, hall⟩ | ⟨e, herror, he, hsome⟩
          · exact .inl ⟨merged, hok, List.forall_mem_cons.mpr ⟨rfl, hall⟩⟩
          · obtain ⟨layer, hmem, hlayer⟩ := hsome
            exact .inr ⟨e, herror, he, layer, List.mem_cons_of_mem _ hmem, hlayer⟩
      | _ => exact .inr ⟨_, rfl, rfl, _, List.mem_cons_self, rfl⟩

variable {σ : Type} [Source σ] {node : Node}

/-! ## Choosing -/

theorem branches_ends {ε : Type} (node : Node) :
    Ends (offered node).length (branches node : Draw σ ε (Option (List Json))) := by
  unfold branches offered
  cases node.array? "allOf" with
  | some all => exact ends_pure _
  | none =>
      cases node.array? "anyOf" with
      | some any => exact (subset_ends (Nat.le_refl _)).bind_all fun layers => ends_pure _
      | none =>
          cases node.array? "oneOf" with
          | some one => exact (element_ends (Nat.le_refl _)).bind_all fun branch? => ends_pure _
          | none => exact ends_pure _

/-- All branches of `allOf` are chosen without a draw. -/
theorem branches_allOf {ε : Type} {all : List Json} (h : node.array? "allOf" = some all) :
    (branches node : Draw σ ε (Option (List Json))) = pure (some all) := by
  unfold branches
  rw [h]

/-- Some branches are chosen for any node that holds branches, unless the source stalls. -/
theorem branches_run {ε : Type} (h : ∃ keyword ∈ keywords, (node.array? keyword).isSome)
    (limit : Nat) (src : σ) :
    (∃ layers rest, (branches node : Draw σ ε _).run limit src = (.ok (some layers), rest)
        ∧ IsChoice node layers)
      ∨ Stalls (offered node).length limit src
        ∧ ∃ rest, (branches node : Draw σ ε _).run limit src = (.error .endless, rest) := by
  refine ((branches_ensures node).run_cases (branches_ends node) limit src).imp_left ?_
  rintro ⟨layers?, rest, hrun, hchoice⟩
  cases layers? with
  | some layers => exact ⟨layers, rest, hrun, hchoice⟩
  | none =>
      obtain ⟨keyword, hmem, hsome⟩ := h
      rw [hchoice keyword hmem] at hsome
      cases hsome

/-! ## Overlaying -/

/-- What becomes of a node once its layers are chosen: a failure just if one of them is no
object, and else a node with every keyword from the uppermost layer that has it, or from the
node itself. -/
structure IsOverlaid (node : Node) (layers : List Json)
    (result : Except (Stop SchemaError) (Option Node)) : Prop where
  fails_iff : (∃ e, result = .error (.failed e) ∧ e.category = .malformedSchema)
    ↔ ∃ layer ∈ layers, layer.isObject = false
  merges : (∀ layer ∈ layers, layer.isObject = true) → ∃ merged, result = .ok (some merged)
    ∧ ∀ keyword, merged.value? keyword = (uppermost keyword layers).or
      (if keyword ∈ keywords then none else node.value? keyword)

theorem resolve_run {layers : List Json} {limit : Nat} {src rest : σ}
    (h : (branches node : Draw σ SchemaError _).run limit src = (.ok (some layers), rest)) :
    ∃ result, (resolve node).run limit src = (result, rest) ∧ IsOverlaid node layers result := by
  unfold resolve
  rw [run_bind_of_ok h]
  rcases layAll_cases layers (base node) with ⟨merged, hok, hall⟩ | ⟨e, herror, he, hsome⟩
  · refine ⟨.ok (some ⟨merged⟩), ?_, ⟨?_, ?_⟩, fun _ => ⟨_, rfl, fun keyword => ?_⟩⟩
    · dsimp only
      rw [hok]
      rfl
    · rintro ⟨e, heq, -⟩
      cases heq
    · rintro ⟨layer, hmem, hlayer⟩
      rw [hall layer hmem] at hlayer
      cases hlayer
    · rw [← get?_base]
      exact get?_layAll hok keyword
  · refine ⟨.error (.failed e), ?_, ⟨fun _ => hsome, fun _ => ⟨e, rfl, he⟩⟩, fun hall => ?_⟩
    · dsimp only
      rw [herror]
      rfl
    · obtain ⟨layer, hmem, hlayer⟩ := hsome
      rw [hall layer hmem] at hlayer
      cases hlayer

/-- A node with at least one keyword that holds branches is overlaid from any source that does
not stall. The chosen branches are all of `allOf`, for which nothing is drawn, or some of
`anyOf`, or one of `oneOf`. -/
theorem resolve_overlays (h : ∃ keyword ∈ keywords, (node.array? keyword).isSome = true)
    (limit : Nat) (src : σ) :
    (∃ layers rest result, (branches node : Draw σ SchemaError _).run limit src
          = (.ok (some layers), rest)
        ∧ (resolve node).run limit src = (result, rest)
        ∧ IsChoice node layers
        ∧ (∀ all, node.array? "allOf" = some all → layers = all ∧ rest = src)
        ∧ IsOverlaid node layers result)
      ∨ node.array? "allOf" = none ∧ Stalls (offered node).length limit src
        ∧ ∃ rest, (resolve node).run limit src = (.error .endless, rest) := by
  rcases branches_run (ε := SchemaError) h limit src with
    ⟨layers, rest, hrun, hchoice⟩ | ⟨hstalls, rest, hrun⟩
  · obtain ⟨result, hresult, hoverlaid⟩ := resolve_run hrun
    refine .inl ⟨layers, rest, result, hrun, hresult, hchoice, fun all hall => ?_, hoverlaid⟩
    rw [branches_allOf hall, run_pure] at hrun
    cases hrun
    exact ⟨rfl, rfl⟩
  · refine .inr ⟨?_, hstalls, rest, run_bind_of_error hrun⟩
    cases hall : node.array? "allOf" with
    | none => rfl
    | some all =>
        rw [branches_allOf hall, run_pure] at hrun
        cases hrun

/-- A node with keywords of its own and two branches to choose from, the other keywords that
could hold branches being no arrays. -/
def twoBranches : Node :=
  ⟨[("allOf", .null), ("anyOf", .array [.object [("maximum", .number (.int 3))],
      .object [("maximum", .number (.int 5)), ("oneOf", .null)]]),
    ("maximum", .number (.int 9)), ("minimum", .number (.int 1)), ("oneOf", .array [])]⟩

theorem resolve_overlays_twoBranches :
    (∃ keyword ∈ keywords, (twoBranches.array? keyword).isSome = true)
      ∧ ∃ layers merged rest, (resolve twoBranches).run 3 (⟨[0x8000000000000000, 0], 0⟩ : Scripted)
          = (.ok (some merged), rest)
        ∧ IsChoice twoBranches layers
        ∧ ∀ keyword, merged.value? keyword = (uppermost keyword layers).or
            (if keyword ∈ keywords then none else twoBranches.value? keyword) := by
  have hholds : ∃ keyword ∈ keywords, (twoBranches.array? keyword).isSome = true :=
    ⟨"anyOf", by decide, rfl⟩
  have hrun : ((resolve twoBranches).run 3
      (⟨[0x8000000000000000, 0], 0⟩ : Scripted)).1.toOption.isSome = true := by decide +kernel
  refine ⟨hholds, ?_⟩
  rcases resolve_overlays hholds 3 (⟨[0x8000000000000000, 0], 0⟩ : Scripted) with
    ⟨layers, rest, result, -, hresult, hchoice, -, hoverlaid⟩ | ⟨-, -, rest, hendless⟩
  · rw [hresult] at hrun
    have hall : ∀ layer ∈ layers, layer.isObject = true := by
      intro layer hmem
      by_contra hlayer
      obtain ⟨e, rfl, -⟩ := hoverlaid.fails_iff.mpr ⟨layer, hmem, Bool.eq_false_iff.mpr hlayer⟩
      cases hrun
    obtain ⟨merged, rfl, hvalue⟩ := hoverlaid.merges hall
    exact ⟨layers, merged, rest, hresult, hchoice, hvalue⟩
  · rw [hendless] at hrun
    cases hrun

end Specimen.Overlay
