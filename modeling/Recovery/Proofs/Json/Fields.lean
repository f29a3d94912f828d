import Recovery.Json.Readable
import Recovery.Proofs.Json.Form
/-!
# Fields by name

Of the fields of one name in an object the last one counts. What a document holds under a name is
what its draft holds there.
-/
set_option autoImplicit false

namespace Recovery

namespace Json

/-! ## Fields by name -/

section Lookup

variable {κ α : Type} [BEq κ] {name : κ} {fields : List (κ × α)}

theorem lookup_cons_eq_ite (field : κ × α) :
    (field :: fields).lookup name =
      if name == field.1 then some field.2 else fields.lookup name := by
  obtain ⟨head, first⟩ := field
  cases same : name == head <;> simp [List.lookup_cons, same]

variable [LawfulBEq κ]

theorem lookup_of_mem {value : α} (once : (fields.map (·.1)).Nodup)
    (member : (name, value) ∈ fields) : fields.lookup name = some value := by
  induction fields with
  | nil => contradiction
  | cons field fields ih =>
    obtain ⟨head, first⟩ := field
    rw [List.map_cons, List.nodup_cons] at once
    cases member with
    | head => simp
    | tail _ member =>
      have other : (name == head) = false := by
        apply beq_eq_false_iff_ne.mpr
        rintro rfl
        exact once.1 (List.mem_map_of_mem (f := (·.1)) member)
      rw [List.lookup_cons, other]
      exact ih once.2 member

theorem lookup_of_not_mem (absent : name ∉ fields.map (·.1)) : fields.lookup name = none := by
  apply List.lookup_eq_none_iff.mpr
  intro field member
  apply bne_iff_ne.mpr
  rintro rfl
  exact absent (List.mem_map_of_mem member)

theorem mem_of_lookup {value : α} (found : fields.lookup name = some value) :
    (name, value) ∈ fields := by
  obtain ⟨before, after, rfl, _⟩ := List.lookup_eq_some_iff.mp found
  simp

theorem lookup_reverse (once : (fields.map (·.1)).Nodup) :
    fields.reverse.lookup name = fields.lookup name := by
  have once' : (fields.reverse.map (·.1)).Nodup := by
    rw [List.map_reverse]
    exact List.pairwise_reverse.mpr (once.imp Ne.symm)
  cases found : fields.lookup name with
  | some value => exact lookup_of_mem once' (List.mem_reverse.mpr (mem_of_lookup found))
  | none =>
    apply List.lookup_eq_none_iff.mpr
    intro field member
    exact List.lookup_eq_none_iff.mp found field (List.mem_reverse.mp member)

end Lookup

theorem get?_object_eq_lookup (name : String) (fields : List (String × Json)) :
    (Json.object fields).get? name = fields.reverse.lookup name := by
  unfold get?
  simp only
  induction fields.reverse with
  | nil => rfl
  | cons field fields ih =>
    by_cases same : name = field.1
    · simp [lookup_cons_eq_ite, same]
    · simp [lookup_cons_eq_ite, same, Ne.symm same, ih]

theorem get?_object {name : String} {fields : List (String × Json)}
    (once : (fields.map (·.1)).Nodup) : (Json.object fields).get? name = fields.lookup name := by
  rw [get?_object_eq_lookup, lookup_reverse once]

/-! ## Documents as drafts -/

mutual

theorem skip?_ofJson (j : Json) : Draft.skip? (.ofJson j) = none := by
  cases j with
  | array items => simp [Draft.ofJson, Draft.skip?, skipItems?_ofItems items]
  | object fields => simp [Draft.ofJson, Draft.skip?, skipFields?_ofFields fields]
  | _ => rfl

theorem skipItems?_ofItems (items : List Json) : Draft.skipItems? (Draft.ofItems items) = none := by
  cases items with
  | nil => rfl
  | cons j items => simp [Draft.ofItems, Draft.skipItems?, skip?_ofJson j, skipItems?_ofItems items]

theorem skipFields?_ofFields (fields : List (String × Json)) :
    Draft.skipFields? (Draft.ofFields fields) = none := by
  cases fields with
  | nil => rfl
  | cons field fields =>
    simp [Draft.ofFields, Draft.skipFields?, skip?_ofJson field.2, skipFields?_ofFields fields]

end

theorem ofItems_eq_map (items : List Json) : Draft.ofItems items = items.map Draft.ofJson := by
  induction items with
  | nil => rfl
  | cons j items ih => rw [Draft.ofItems, ih, List.map_cons]

theorem ofFields_eq_map (fields : List (String × Json)) :
    Draft.ofFields fields = fields.map fun field => (some field.1, Draft.ofJson field.2) := by
  induction fields with
  | nil => rfl
  | cons field fields ih => rw [Draft.ofFields, ih, List.map_cons]

theorem lookup_ofFields (name : String) (fields : List (String × Json)) :
    (Draft.ofFields fields).reverse.lookup (some name) =
      (fields.reverse.lookup name).map Draft.ofJson := by
  rw [ofFields_eq_map, ← List.map_reverse]
  induction fields.reverse with
  | nil => rfl
  | cons field fields ih =>
    by_cases same : name = field.1 <;> simp [lookup_cons_eq_ite, same, ih]

namespace Form

theorem lookup_put {α : Type} (name : String) (value : α) (fields : List (String × α))
    (asked : String) :
    (put name value fields).lookup asked =
      if asked = name then some value else fields.lookup asked := by
  rw [put, List.lookup_append]
  induction fields with
  | nil => by_cases same : asked = name <;> simp [lookup_cons_eq_ite, same]
  | cons field fields ih =>
    by_cases dropped : field.1 = name
    · by_cases same : asked = name <;> simp_all [lookup_cons_eq_ite]
    · by_cases found : asked = field.1 <;> simp_all [lookup_cons_eq_ite]

end Form

end Json

end Recovery
