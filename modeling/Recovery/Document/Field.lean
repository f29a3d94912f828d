import Recovery.Json.Basic
/-!
# Fields of documents

Reading documents that are written by hand: what is left out or null counts as the empty text, the
empty list, `false` or zero.
-/
set_option autoImplicit false

namespace Recovery

namespace Document

/-- A field that is there and not null. -/
def field? (j : Json) (name : String) : Option Json := (j.get? name).filter fun v => !v.isNull

def text? (j : Json) (name : String) : Option String := (field? j name).bind Json.asString?

def text (j : Json) (name : String) : String := (text? j name).getD ""

def flag (j : Json) (name : String) : Bool := ((field? j name).bind Json.asBool?).getD false

def int? (j : Json) (name : String) : Option Int := (field? j name).bind Json.asInt?

def natural? (j : Json) (name : String) : Option Nat := (int? j name).map Int.toNat

def natural (j : Json) (name : String) : Nat := (natural? j name).getD 0

def list (j : Json) (name : String) : List Json := ((field? j name).bind Json.asArray?).getD []

def texts (j : Json) (name : String) : List String := (list j name).filterMap Json.asString?

def part (j : Json) (name : String) : Json := (field? j name).getD (.object [])

def entries (j : Json) (name : String) : List (String × Json) := (part j name).asObject?.getD []

def optional {α : Type} (toJson : α → Json) : Option α → Json
  | some a => toJson a
  | none => .null

theorem sizeOf_get? {j v : Json} {name : String} (h : j.get? name = some v) :
    sizeOf v < sizeOf j := by
  cases j with
  | object fs =>
    obtain ⟨⟨k, w⟩, hf, rfl⟩ := Option.map_eq_some_iff.1 h
    have hm : (k, w) ∈ fs := List.mem_reverse.1 (List.mem_of_find?_eq_some hf)
    have := List.sizeOf_lt_of_mem hm
    simp only [Json.object.sizeOf_spec, Prod.mk.sizeOf_spec] at *
    omega
  | null => simp [Json.get?] at h
  | bool => simp [Json.get?] at h
  | integer => simp [Json.get?] at h
  | decimal => simp [Json.get?] at h
  | string => simp [Json.get?] at h
  | array => simp [Json.get?] at h

theorem sizeOf_field? {j v : Json} {name : String} (h : field? j name = some v) :
    sizeOf v < sizeOf j := by
  obtain ⟨hv, _⟩ := Option.filter_eq_some_iff.1 h
  exact sizeOf_get? hv

theorem sizeOf_list {j v : Json} {name : String} (h : v ∈ list j name) : sizeOf v < sizeOf j := by
  unfold list at h
  cases hf : field? j name with
  | none => simp [hf] at h
  | some w =>
    have hw := sizeOf_field? hf
    cases w with
    | array xs =>
      simp only [hf, Option.bind_some, Json.asArray?, Option.getD_some] at h
      have := List.sizeOf_lt_of_mem h
      simp only [Json.array.sizeOf_spec] at hw
      omega
    | null => simp [hf, Json.asArray?] at h
    | bool => simp [hf, Json.asArray?] at h
    | integer => simp [hf, Json.asArray?] at h
    | decimal => simp [hf, Json.asArray?] at h
    | string => simp [hf, Json.asArray?] at h
    | object => simp [hf, Json.asArray?] at h

end Document

end Recovery
