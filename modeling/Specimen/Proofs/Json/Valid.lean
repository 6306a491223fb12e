import Specimen.Json.Basic
import Specimen.Proofs.Json.Fields

/-!
# Valid documents

The documents that there can be are fewer than the type `Json` has: an integer has 64 bits, a
floating-point number is finite, and the fields of an object stand in the order of their
names. Putting the fields of a document in order makes it valid but for its numbers
(`isValid_normalize`), and changes nothing in a valid one (`normalize_of_isValid`).
-/

namespace Specimen

/-- A number that fits a document. -/
inductive Number.IsValid : Number → Prop
  | int {n : Int} (hmin : int64Min ≤ n) (hmax : n ≤ uint64Max) : IsValid (.int n)
  | float {x : Double} (h : x.isFinite = true) : IsValid (.float x)

namespace Fields

/-! ## The order of fields -/

/-- The fields stand in the order of their names, and no name comes twice. -/
def IsOrdered (fields : Fields) : Prop := (names fields).Pairwise (· < ·)

variable {fields : Fields} {name : String} {value : Json}

theorem mem_insert {field : String × Json} (h : field ∈ insert name value fields) :
    field = (name, value) ∨ field ∈ fields := by
  induction fields with
  | nil => exact .inl (List.mem_singleton.mp h)
  | cons first rest ih =>
      unfold insert at h
      split at h
      · exact List.mem_cons.mp h
      · split at h
        · exact (List.mem_cons.mp h).imp_right (List.mem_cons_of_mem _)
        · rcases List.mem_cons.mp h with rfl | h
          · exact .inr List.mem_cons_self
          · exact (ih h).imp_right (List.mem_cons_of_mem _)

theorem mem_names_insert {other : String} (h : other ∈ names (insert name value fields)) :
    other = name ∨ other ∈ names fields := by
  obtain ⟨v, hmem⟩ := mem_names.mp h
  rcases mem_insert hmem with heq | hmem
  · exact .inl (Prod.mk.inj heq).1
  · exact .inr (mem_names.mpr ⟨v, hmem⟩)

theorem IsOrdered.insert (h : IsOrdered fields) : IsOrdered (insert name value fields) := by
  induction fields with
  | nil => exact List.pairwise_singleton ..
  | cons first rest ih =>
      obtain ⟨key, old⟩ := first
      obtain ⟨hfirst, hrest⟩ := List.pairwise_cons.mp h
      unfold Fields.insert
      split
      · next hlt =>
          refine List.pairwise_cons.mpr ⟨fun other hother => ?_, h⟩
          rcases List.mem_cons.mp hother with rfl | hother
          · exact hlt
          · exact String.lt_trans hlt (hfirst other hother)
      · next hge =>
          split
          · next heq =>
              subst heq
              exact List.pairwise_cons.mpr ⟨hfirst, hrest⟩
          · next hne =>
              refine List.pairwise_cons.mpr ⟨fun other hother => ?_, ih hrest⟩
              rcases mem_names_insert hother with rfl | hother
              · exact Std.lt_of_le_of_ne (String.not_lt.mp hge) (Ne.symm hne)
              · exact hfirst other hother

theorem isOrdered_nil : IsOrdered [] := List.Pairwise.nil

/-- Fields that are put in their places one after another. -/
theorem foldl_insert {P : Fields → Prop}
    (hinsert : ∀ done name value, P done → P (insert name value done)) :
    ∀ (fields : List (String × Json)) (done : Fields), P done →
      P (fields.foldl (fun ordered field => insert field.1 field.2 ordered) done)
  | [], _, h => h
  | field :: rest, done, h => foldl_insert hinsert rest _ (hinsert done field.1 field.2 h)

theorem isOrdered_ofList (fields : List (String × Json)) : IsOrdered (ofList fields) :=
  foldl_insert (fun _ _ _ h => h.insert) fields [] isOrdered_nil

theorem mem_ofList {field : String × Json} {fields : List (String × Json)}
    (h : field ∈ ofList fields) : field ∈ fields := by
  have hfold : ∀ (rest done : List (String × Json)),
      field ∈ rest.foldl (fun ordered field => insert field.1 field.2 ordered) done →
        field ∈ done ∨ field ∈ rest := by
    intro rest
    induction rest with
    | nil => exact fun done h => .inl h
    | cons first rest ih =>
        intro done h
        rcases ih _ h with h | h
        · rcases mem_insert h with rfl | h
          · exact .inr List.mem_cons_self
          · exact .inl h
        · exact .inr (List.mem_cons_of_mem _ h)
  exact (hfold fields [] h).resolve_left (List.not_mem_nil)

/-- What comes after all fields is put at the end. -/
theorem insert_of_forall_lt (h : ∀ key ∈ names fields, key < name) :
    insert name value fields = fields ++ [(name, value)] := by
  induction fields with
  | nil => rfl
  | cons first rest ih =>
      have hlt : first.1 < name := h first.1 List.mem_cons_self
      unfold insert
      rw [if_neg (Std.not_lt.mpr (Std.le_of_lt hlt)), if_neg (Std.ne_of_lt hlt).symm,
        ih fun key hkey => h key (List.mem_cons_of_mem _ hkey)]
      rfl

theorem ofList_of_isOrdered (h : IsOrdered fields) : ofList fields = fields := by
  have hfold : ∀ (rest done : List (String × Json)), IsOrdered (done ++ rest) →
      rest.foldl (fun ordered field => insert field.1 field.2 ordered) done = done ++ rest := by
    intro rest
    induction rest with
    | nil => exact fun done _ => (List.append_nil done).symm
    | cons first rest ih =>
        intro done hordered
        have hlast : ∀ key ∈ names done, key < first.1 := by
          unfold IsOrdered names at hordered
          rw [List.map_append, List.pairwise_append] at hordered
          exact fun key hkey => hordered.2.2 key hkey first.1 List.mem_cons_self
        have hmoved : done ++ first :: rest = done ++ [(first.1, first.2)] ++ rest := by simp
        rw [List.foldl_cons, insert_of_forall_lt hlast, hmoved]
        exact ih _ (hmoved ▸ hordered)
  exact hfold fields [] h

end Fields

namespace Json

/-! ## Documents -/

/-- A document whose numbers fit and whose fields are in order. -/
inductive IsValid : Json → Prop
  | null : IsValid null
  | bool (b : Bool) : IsValid (bool b)
  | number {n : Number} (h : n.IsValid) : IsValid (number n)
  | string (s : String) : IsValid (string s)
  | array {items : List Json} (h : ∀ item ∈ items, IsValid item) : IsValid (array items)
  | object {fields : Fields} (hordered : Fields.IsOrdered fields)
      (h : ∀ field ∈ fields, IsValid field.2) : IsValid (object fields)

mutual

/-- Whether the numbers of a document fit, in whatever order its fields are. -/
def HoldsNumbers : Json → Prop
  | number n => n.IsValid
  | array items => ItemsHoldNumbers items
  | object fields => FieldsHoldNumbers fields
  | _ => True

def ItemsHoldNumbers : List Json → Prop
  | [] => True
  | item :: rest => HoldsNumbers item ∧ ItemsHoldNumbers rest

def FieldsHoldNumbers : List (String × Json) → Prop
  | [] => True
  | (_, value) :: rest => HoldsNumbers value ∧ FieldsHoldNumbers rest

end

mutual

theorem normalize_of_isValid : ∀ d : Json, d.IsValid → d.normalize = d
  | null, _ => rfl
  | bool _, _ => rfl
  | number _, _ => rfl
  | string _, _ => rfl
  | array items, h => by
      cases h with
      | array h => rw [normalize, normalizeItems_of_isValid items h]
  | object fields, h => by
      cases h with
      | object hordered h =>
          rw [normalize, normalizeFields_of_isValid fields h, Fields.ofList_of_isOrdered hordered]

theorem normalizeItems_of_isValid : ∀ items : List Json, (∀ item ∈ items, item.IsValid) →
    normalizeItems items = items
  | [], _ => rfl
  | item :: rest, h => by
      rw [normalizeItems, normalize_of_isValid item (h item List.mem_cons_self),
        normalizeItems_of_isValid rest fun other hother => h other (List.mem_cons_of_mem _ hother)]

theorem normalizeFields_of_isValid : ∀ fields : List (String × Json),
    (∀ field ∈ fields, field.2.IsValid) → normalizeFields fields = fields
  | [], _ => rfl
  | (name, value) :: rest, h => by
      rw [normalizeFields, normalize_of_isValid value (h (name, value) List.mem_cons_self),
        normalizeFields_of_isValid rest fun other hother => h other (List.mem_cons_of_mem _ hother)]

end

mutual

/-- With its fields in order a document is valid if its numbers fit. -/
theorem isValid_normalize : ∀ d : Json, d.HoldsNumbers → d.normalize.IsValid
  | null, _ => .null
  | bool b, _ => .bool b
  | number _, h => .number h
  | string s, _ => .string s
  | array items, h => .array (isValid_normalizeItems items h)
  | object fields, h =>
      .object (Fields.isOrdered_ofList _) fun field hfield =>
        isValid_normalizeFields fields h field (Fields.mem_ofList hfield)

theorem isValid_normalizeItems : ∀ items : List Json, ItemsHoldNumbers items →
    ∀ item ∈ normalizeItems items, item.IsValid
  | [], _, _, hitem => by cases hitem
  | first :: rest, h, item, hitem => by
      rcases List.mem_cons.mp hitem with rfl | hitem
      · exact isValid_normalize first h.1
      · exact isValid_normalizeItems rest h.2 item hitem

theorem isValid_normalizeFields : ∀ fields : List (String × Json), FieldsHoldNumbers fields →
    ∀ field ∈ normalizeFields fields, field.2.IsValid
  | [], _, _, hfield => by cases hfield
  | (name, value) :: rest, h, field, hfield => by
      rcases List.mem_cons.mp hfield with rfl | hfield
      · exact isValid_normalize value h.1
      · exact isValid_normalizeFields rest h.2 field hfield

end

end Json

end Specimen
