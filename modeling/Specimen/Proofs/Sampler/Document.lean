import Specimen.Proofs.Sampler.Inlining
import Specimen.Proofs.Sampler.Plain

/-!
# Where pointers start in a document

With pointers starting at the document, a descent need not be told where it is: as
long as it has not left the document every pointer is walked from one and the same
schema, the *root* (`pointerOrBeyond`). Such a descent has no schema around it to
hand on, and `value_within` says that it samples what the descent of the model
samples from inside the root.

The root is the document with its branches laid over it (`value_document`). It is
the document itself only if no keyword for branches holds an array
(`documentFrom_unbranched`): once branches are laid over, a pointer that names a place in
the document as it was written can lead nowhere (`sample_document_branchLost`).
-/

namespace Specimen.Sampler

open Draw

variable {σ : Type} [Source σ] {s : Sampler}

/-! ## A descent with one root -/

/-- Samples what a reference leads to: a pointer is walked from `root`, and what lies
beyond the document is left to `beyond`. -/
def pointerOrBeyond (s : Sampler) (root : Json) (inside : Json → Draw σ SchemaError Json)
    (beyond : Resolved → Draw σ SchemaError Json) (reference : String) :
    Draw σ SchemaError Json :=
  match reference.toList with
  | '#' :: pointer =>
    match root.walk? (.ofList pointer) with
    | some target => inside target
    | none => Draw.fail (.unresolvable reference .noTarget)
  | _ => do beyond (← Draw.ofExcept (Reference.resolveExternal reference s.baseDir s.loader))

/-- A sample of a node that holds no branches, in a descent with one root. -/
def nodeFrom (s : Sampler) (root : Json) (inside : Json → Draw σ SchemaError Json)
    (beyond : String → Resolved → Draw σ SchemaError Json) (node : Node) :
    Draw σ SchemaError Json :=
  match node.string? "$ref" with
  | some reference => s.pointerOrBeyond root inside (beyond reference) reference
  | none => s.ofNode (fun schema _ => inside schema) node none

/-- A sample of a schema inside the document with the given root. Beyond the document
the descent goes on as it does from anywhere. -/
def valueFrom (s : Sampler) (root : Json) : Nat → Json → Draw σ SchemaError Json
  | 0, _ => Draw.endless
  | depth + 1, schema => do
    let node ← Draw.ofExcept (Node.ofJson schema)
    let overlaid ← Overlay.resolve node
    s.nodeFrom root (valueFrom s root depth)
      (fun reference => enter (s.value depth) reference (some root)) (overlaid.getD node)

/-- A sample of a document: its root is what its branches make of it. -/
def documentFrom (s : Sampler) : Nat → Json → Draw σ SchemaError Json
  | 0, _ => Draw.endless
  | depth + 1, document => do
    let node ← Draw.ofExcept (Node.ofJson document)
    let overlaid ← Overlay.resolve node
    let top := overlaid.getD node
    s.nodeFrom top.toJson (s.valueFrom top.toJson depth)
      (fun reference => enter (s.value depth) reference none) top

/-! ## References -/

theorem pointerStart_document (hscope : s.settings.refScope = .document) (node : Node)
    (parent : Option Json) : s.pointerStart node parent = some (parent.getD node.toJson) := by
  unfold pointerStart
  rw [hscope]

theorem resolve_pointer {reference : String} {pointer : List Char}
    (h : reference.toList = '#' :: pointer) (parent : Option Json) (base : Path) (loader : Loader) :
    Reference.resolve reference parent base loader
      = Reference.resolveInline reference (.ofList pointer) parent := by
  unfold Reference.resolve
  simp only [h]

theorem resolve_external {reference : String} (h : ∀ pointer, reference.toList ≠ '#' :: pointer)
    (parent : Option Json) (base : Path) (loader : Loader) :
    Reference.resolve reference parent base loader
      = Reference.resolveExternal reference base loader := by
  unfold Reference.resolve
  split
  · next pointer hpointer => exact (h pointer hpointer).elim
  · rfl

omit [Source σ] in
/-- Resolving a reference and entering where it led is what the descent with one
root does in one go. -/
theorem follow_document (hscope : s.settings.refScope = .document) {descend : Descent σ}
    {inside : Json → Draw σ SchemaError Json} {node : Node} {parent : Option Json}
    {root : Json} (hroot : parent.getD node.toJson = root)
    (hinside : ∀ target, descend target (some root) = inside target) (reference : String) :
    s.follow descend reference node parent
      = s.pointerOrBeyond root inside (enter descend reference parent) reference := by
  rw [follow_eq, pointerStart_document hscope, hroot]
  by_cases hpointer : ∃ pointer, reference.toList = '#' :: pointer
  · obtain ⟨pointer, hchars⟩ := hpointer
    rw [resolve_pointer hchars]
    unfold pointerOrBeyond Reference.resolveInline
    simp only [hchars]
    cases root.walk? (.ofList pointer) with
    | none => rfl
    | some target => exact hinside target
  · rw [resolve_external (not_exists.mp hpointer)]
    unfold pointerOrBeyond
    split
    · next pointer hchars => exact (hpointer ⟨pointer, hchars⟩).elim
    · rfl

/-! ## Values -/

theorem array_congr {x y : Descent σ} {scope scope' : Json}
    (h : ∀ schema, x schema (some scope) = y schema (some scope')) (node : Node) :
    array x node scope = array y node scope' := by
  unfold array
  simp only [h]

theorem object_congr {x y : Descent σ} {scope scope' : Json}
    (h : ∀ schema, x schema (some scope) = y schema (some scope')) (node : Node) :
    object x node scope = object y node scope' := by
  have hproperty (table : PropertyTable) :
      property x table scope = property y table scope' := by
    funext name
    unfold property
    simp only [h]
  unfold object
  simp only [hproperty]

theorem ofKind_congr {x y : Descent σ} {scope scope' : Json}
    (h : ∀ schema, x schema (some scope) = y schema (some scope')) (node : Node) (kind : Kind) :
    s.ofKind x node scope kind = s.ofKind y node scope' kind := by
  cases kind with
  | array => exact array_congr h node
  | object => exact object_congr h node
  | _ => rfl

/-- A node is sampled from its root alone if the descents below it are. -/
theorem ofNode_document (hscope : s.settings.refScope = .document) {descend : Descent σ}
    {inside : Json → Draw σ SchemaError Json} (node : Node) (parent : Option Json)
    {root : Json} (hroot : parent.getD node.toJson = root)
    (hinside : ∀ target, descend target (some root) = inside target) :
    s.ofNode descend node parent
      = s.nodeFrom root inside (fun reference => enter descend reference parent) node := by
  unfold nodeFrom ofNode
  cases href : node.string? "$ref" with
  | some reference =>
      have hhas : node.has "$ref" = true := by
        unfold Node.string? Node.value? at href
        unfold Node.has Fields.contains
        obtain ⟨value, hget, -⟩ := Option.bind_eq_some_iff.mp href
        rw [hget]
        rfl
      rw [if_pos hhas]
      exact follow_document hscope hroot hinside reference
  | none =>
      have hstart : s.scopeOf node parent = root := by
        unfold scopeOf
        rw [hscope]
        exact hroot
      have hkind (kind : Kind) : s.ofKind descend node root kind
          = s.ofKind (fun schema _ => inside schema) node (s.scopeOf node none) kind :=
        ofKind_congr hinside node kind
      rw [hstart]
      simp only [hkind]

/-- As long as the document is not left, every pointer is walked from the root, however
deep the descent is and through whatever it came. -/
theorem value_within (hscope : s.settings.refScope = .document) (root : Json) :
    ∀ (depth : Nat) (schema : Json),
      (s.value depth schema (some root) : Draw σ SchemaError Json) = s.valueFrom root depth schema
  | 0, _ => rfl
  | depth + 1, schema => by
      have hnode (node : Node) := ofNode_document (σ := σ) hscope node (some root) rfl
        (value_within hscope root depth)
      show s.step (s.value depth) schema (some root) = _
      unfold step valueFrom
      simp only [hnode, Option.getD_some]

/-- The root of a document is the document with its branches laid over it. -/
theorem value_document (hscope : s.settings.refScope = .document) (document : Json) :
    ∀ depth, (s.value depth document none : Draw σ SchemaError Json)
      = s.documentFrom depth document
  | 0 => rfl
  | depth + 1 => by
      have hnode (node : Node) := ofNode_document (σ := σ) hscope node none rfl
        (value_within hscope node.toJson depth)
      show s.step (s.value depth) document none = _
      unfold step documentFrom
      simp only [hnode, Option.getD_none]

/-- Nothing is laid over a node under whose keywords for branches no array stands. -/
def Unbranched (node : Node) : Prop :=
  ∀ keyword ∈ Overlay.keywords, node.array? keyword = none

theorem unbranched_iff {node : Node} : Unbranched node ↔
    node.array? "allOf" = none ∧ node.array? "anyOf" = none ∧ node.array? "oneOf" = none := by
  simp only [Unbranched, Overlay.keywords, List.forall_mem_cons, List.not_mem_nil,
    false_imp_iff, implies_true, and_true]

theorem Unbranched.resolve {node : Node} (h : Unbranched node) :
    (Overlay.resolve node : Draw σ SchemaError (Option Node)) = pure none := by
  obtain ⟨hall, hany, hone⟩ := unbranched_iff.mp h
  exact resolve_eq_none hall hany hone

/-- A document without branches is its own root. -/
theorem documentFrom_unbranched {fields : Fields} (hunbranched : Unbranched ⟨fields⟩)
    (depth : Nat) :
    (s.documentFrom (depth + 1) (.object fields) : Draw σ SchemaError Json)
      = s.nodeFrom (.object fields) (s.valueFrom (.object fields) depth)
          (fun reference => enter (s.value depth) reference none) ⟨fields⟩ := by
  show (Overlay.resolve ⟨fields⟩ >>= fun overlaid : Option Node =>
    let top := overlaid.getD ⟨fields⟩
    s.nodeFrom top.toJson (s.valueFrom top.toJson depth)
      (fun reference => enter (s.value depth) reference none) top : Draw σ SchemaError Json) = _
  rw [hunbranched.resolve]
  rfl

/-! ## Documents -/

/-- With pointers starting at the document, every pointer that is followed before the
document is left is walked from the document with its branches laid over it, and so from
the document as it was written if it has no branches. -/
theorem sample_document (s : Sampler) (hscope : s.settings.refScope = .document)
    (document : Json) :
    (s.sample document : Draw σ SchemaError Json)
        = (Draw.limit >>= fun depth => s.documentFrom depth document)
      ∧ ∀ fields : Fields, document = .object fields → Unbranched ⟨fields⟩ →
        ∀ depth, (s.documentFrom (depth + 1) document : Draw σ SchemaError Json)
          = s.nodeFrom document (s.valueFrom document depth)
              (fun reference => enter (s.value depth) reference none) ⟨fields⟩ := by
  constructor
  · show (Draw.limit >>= fun depth => s.value depth document none) = _
    simp only [value_document hscope]
  · rintro fields rfl hunbranched depth
    exact documentFrom_unbranched hunbranched depth

/-- An object whose only property is a reference. -/
def referring (reference : String) : Fields :=
  [("definitions", .object [("a", Kind.null.toSchema)]),
    ("properties", .object [("x", .object [("$ref", .string reference)])]),
    ("required", .array [.string "x"]), ("type", .string "object")]

/-- A document of one branch, whose only property is a reference. -/
def oneBranch (reference : String) : Json :=
  .object [("allOf", .array [.object (referring reference)])]

/-- Pointers start where the branch has been laid over the document, or in the document
itself if it is written without a branch. -/
theorem sample_document_oneBranch :
    (∃ rest : Scripted,
      (Draw.limit >>= fun depth => documentFrom
          ⟨{ refScope := .document }, ⟨"."⟩, DocumentTable.empty.toLoader⟩ depth
          (oneBranch "#/definitions/a")).run 3 ⟨[0], 0⟩ = (.ok (.object [("x", .null)]), rest))
      ∧ ∃ rest : Scripted,
        (documentFrom ⟨{ refScope := .document }, ⟨"."⟩, DocumentTable.empty.toLoader⟩ 3
          (.object (referring "#/definitions/a"))).run 3 ⟨[0], 0⟩
            = (.ok (.object [("x", .null)]), rest) := by
  constructor
  · rw [← (sample_document _ rfl _).1]
    refine ⟨_, run_of_toOption ?_⟩
    set_option maxRecDepth 20000 in
    rfl
  · have hunbranched : Unbranched ⟨referring "#/definitions/a"⟩ :=
      unbranched_iff.mpr ⟨rfl, rfl, rfl⟩
    rw [(sample_document _ rfl _).2 _ rfl hunbranched]
    refine ⟨_, run_of_toOption ?_⟩
    set_option maxRecDepth 20000 in
    rfl

/-- A pointer to a place in the document as it was written leads nowhere. -/
theorem sample_document_branchLost :
    (oneBranch "#/allOf/0/definitions/a").walk? "/allOf/0/definitions/a"
        = some Kind.null.toSchema
      ∧ ((sample ⟨{ refScope := .document }, ⟨"."⟩, DocumentTable.empty.toLoader⟩
          (oneBranch "#/allOf/0/definitions/a")).run 3 (⟨[0], 0⟩ : Scripted)).1
        = .error (.failed (.unresolvable "#/allOf/0/definitions/a" .noTarget)) := by
  refine ⟨rfl, ?_⟩
  set_option maxRecDepth 20000 in
  rfl

end Specimen.Sampler
