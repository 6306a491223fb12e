import Specimen.Proofs.Sampler.Plain
import Specimen.Proofs.Validation.Plain
import Specimen.Random.Scripted

/-!
# Samples of plain schemas pass

What is sampled for a plain schema is an instance of it (`sampleWithin_conforms`),
and instances are accepted by the validator. So a sample made for a plain document
passes when it is held against the document, with every source, all settings and
in every draft. Where no sample is made the schema is malformed: its bounds leave
no integer, or it asks for more names than it lets an object have.
-/

namespace Specimen.Sampler

open Draw SchemaError Validation

variable {σ : Type} [Source σ]

theorem sampleWithin_conforms (s : Sampler) {schema : Json} (h : Plain schema)
    (parent : Option Json) :
    Ensures (s.sampleWithin schema parent : Draw σ SchemaError Json) (Conforms schema)
      IsMalformed :=
  ensures_limit.bind fun depth _ => value_conforms s depth schema parent h

/-- A sample of a plain document is accepted by the validator that the document has
without others. -/
theorem sample_passes (s : Sampler) {document : Json} (h : Plain document) {validator : Validator}
    (hvalidator : Validator.ofDocument? document = some validator) :
    Ensures (s.sample document : Draw σ SchemaError Json) (validator.accepts · = true)
      IsMalformed :=
  (sampleWithin_conforms s h none).imp_value fun _ hv => accepts_of_ofDocument? h hvalidator hv

/-- A sample of a plain schema is an instance of the schema, and it is accepted in
every draft; in the latest one lists of schemas for items make a document that is
no schema. -/
theorem sampleWithin_accepted (s : Sampler) {document : Json} (h : Plain document)
    (parent : Option Json) :
    Ensures (s.sampleWithin document parent : Draw σ SchemaError Json)
      (fun v => Conforms document v ∧ ∀ d : Draft,
        (d = .draft2020 → Shape.fits .draft2020 .schema document = true) →
          (validatorIn d document).accepts v = true) IsMalformed := by
  refine (sampleWithin_conforms s h parent).imp_value fun v hv => ⟨hv, fun d hfits => ?_⟩
  exact accepts_of_conforms h hfits hv

/-- Two schemas for the items of an array that has at least three of them. -/
def tupleOfThree : Fields :=
  [("items", .array [.object [("const", .bool true)], Kind.null.toSchema]),
    ("minItems", .number (.int 3)), ("type", .string "array")]

/-- The schemas of the items go round. -/
theorem sampleWithin_accepted_tupleOfThree :
    ∃ rest : Scripted, Plain (.object tupleOfThree)
      ∧ (sampleWithin ⟨{}, ⟨"."⟩, DocumentTable.empty.toLoader⟩ (.object tupleOfThree) none).run 2
          (⟨[0, 0], 0⟩ : Scripted) = (.ok (.array [.bool true, .null, .bool true]), rest)
      ∧ (validatorIn .draft7 (.object tupleOfThree)).accepts
          (.array [.bool true, .null, .bool true]) = true := by
  have hinside {schema : Json} (h : IsInside tupleOfThree schema) :
      schema = .object [("const", .bool true)] ∨ schema = Kind.null.toSchema := by
    rcases h with ⟨⟨⟩⟩ | ⟨⟨⟩, hmem⟩ | ⟨⟨⟩, _⟩ | ⟨⟨⟩⟩
    simpa using hmem
  have hfields : PlainFields tupleOfThree := by
    refine ⟨by decide, by decide, .inl ⟨.array, rfl⟩, ?_, ?_, ?_, ?_, ?_, ?_, ?_, ?_, ?_,
      fun f h => ?_⟩
    · rintro (_ | _) _ ⟨⟩
    · rintro (_ | _ | _) _ _ (rfl | rfl) ⟨⟩
      exact ⟨3, rfl, by decide⟩
    · rintro (_ | _ | _) _ _ ⟨⟩ ⟨⟩
    · rintro _ ⟨⟩
      exact .inr ⟨_, rfl⟩
    · rintro _ ⟨⟩
    · rintro _ ⟨⟩
    · rintro _ _ ⟨⟩
    · rintro _ ⟨⟩
    · rintro _ ⟨⟩
    · rcases hinside h with h | h
      · cases h
        rfl
      · cases h
        rfl
  have hplain : Plain (.object tupleOfThree) := by
    refine .typed hfields fun schema h => ?_
    rcases hinside h with rfl | rfl
    · exact .constant _ fun _ h => nomatch h
    · exact plain_toSchema .null
  obtain ⟨rest, hrun⟩ : ∃ rest,
      (sampleWithin ⟨{}, ⟨"."⟩, DocumentTable.empty.toLoader⟩ (.object tupleOfThree) none).run 2
        (⟨[0, 0], 0⟩ : Scripted) = (.ok (.array [.bool true, .null, .bool true]), rest) := by
    refine ⟨_, run_of_toOption ?_⟩
    set_option maxRecDepth 20000 in
    rfl
  refine ⟨rest, hplain, hrun, ?_⟩
  exact ((sampleWithin_accepted _ hplain none).value hrun).2 .draft7 nofun

end Specimen.Sampler
