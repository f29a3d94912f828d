import Recovery.Json.Form
/-!
# Records in JSON

A record has declared fields. In its normal form they stand in their declared order, each at most
once; null fields are left out and defaults are written out. Fields of other names are dropped.
-/
set_option autoImplicit false

namespace Recovery

namespace Json

namespace Form

inductive Absence where
  | refused
  | omitted
  | given (default : Json)
deriving Repr

structure Field where
  name : String
  form : Form
  absence : Absence
  /-- Null counts as absent. -/
  nullable : Bool
  /-- An array of the fields may end before this one. -/
  trailing : Bool

structure Layout where
  /-- An array of the fields in their declared order stands for the record. -/
  positional : Bool
  /-- A field may be repeated, and the last one counts. -/
  repeatable : Bool
  /-- Fields of other names must be readable. -/
  readable : Bool

namespace Field

def read (f : Field) : Draft → Except ReadError (Option Json)
  | .null => if f.nullable then .ok none else (f.form .null).map some
  | d => (f.form d).map some

def complete (f : Field) : Option Json → Except ReadError (Option (String × Json))
  | some value => .ok (some (f.name, value))
  | none =>
    match f.absence with
    | .refused => .error .malformed
    | .omitted => .ok none
    | .given default => .ok (some (f.name, default))

end Field

def complete (fields : List Field) (read : List (String × Option Json)) :
    Except ReadError Json := do
  let made ← fields.mapM fun f => f.complete ((read.lookup f.name).join)
  return .object (made.filterMap id)

def readField (layout : Layout) (fields : List Field) (read : List (String × Option Json))
    (field : Option String × Draft) : Except ReadError (List (String × Option Json)) := do
  let name ← nameOf field.1
  match fields.find? (·.name == name) with
  | some f =>
    if !layout.repeatable && (read.lookup name).isSome then .error .malformed
    else return put name (← f.read field.2) read
  | none =>
    if layout.readable then
      let _ ← any field.2
      return read
    else
      match field.2.skip? with
      | some e => .error e
      | none => return read

/-- The fields of an array; it may only end before a field that is trailing. -/
def readItems (stop : Option Damage) :
    List Field → List Draft → Except ReadError (List (String × Option Json))
  | [], [] =>
    match stop with
    | none => .ok []
    | some damage => .error damage.reading
  | [], _ :: _ => .error .malformed
  | f :: fields, [] =>
    match stop with
    | some damage => .error damage.reading
    | none => if f.trailing then readItems stop fields [] else .error .malformed
  | f :: fields, x :: items => do
    let value ← f.read x
    return (f.name, value) :: (← readItems stop fields items)

def record (layout : Layout) (fields : List Field) : Form
  | .object written stop => do
    let read ← written.foldlM (readField layout fields) []
    match stop with
    | some damage => .error damage.reading
    | none => complete fields read
  | .array items stop =>
    if layout.positional then do complete fields (← readItems stop fields items)
    else .error .malformed
  | .blank => complete fields []
  | d => .error d.refusal

def strict : List Field → Form := record ⟨true, false, false⟩

/-- A record read forgivingly: only by name, null fields are absent, the last one of a name
counts. -/
def lenient : List Field → Form := record ⟨false, true, false⟩

/-- A record that takes all fields in before it looks at those of other names. -/
def collected : List Field → Form := record ⟨false, false, true⟩

/-! ## Kinds of fields -/

namespace Field

/-- It must be there. -/
def required (name : String) (form : Form) : Field := ⟨name, form, .refused, false, false⟩

/-- It may be null, or absent from an object. -/
def optional (name : String) (form : Form) : Field := ⟨name, form, .omitted, true, false⟩

/-- It may be absent from an object, but not null. -/
def absentable (name : String) (form : Form) : Field := ⟨name, form, .omitted, false, false⟩

/-- It may be null or absent, also from the end of an array. -/
def optionalLast (name : String) (form : Form) : Field := ⟨name, form, .omitted, true, true⟩

/-- It has a default when it is absent; null is no value for it. -/
def defaulted (name : String) (default : Json) (form : Form) : Field :=
  ⟨name, form, .given default, false, true⟩

/-- It has a default when it is absent or null. -/
def filled (name : String) (default : Json) (form : Form) : Field :=
  ⟨name, form, .given default, true, false⟩

def filledText (name : String) : Field := filled name (.string "") text

def filledInt (name : String) (form : Form) : Field := filled name (.integer 0) form

def filledList (name : String) (item : Form) : Field := filled name (.array []) (listOf item)

def filledRecord (name : String) (form : Form) : Field :=
  ⟨name, form,
    match form (.object [] none) with
    | .ok j => .given j
    | .error _ => .refused, true, false⟩

def texts (names : List String) : List Field := names.map (optional · text)

def flags (names : List String) : List Field := names.map (optional · flag)

def int32s (names : List String) : List Field := names.map (optional · int32)

def int64s (names : List String) : List Field := names.map (optional · int64)

def textLists (names : List String) : List Field := names.map (optional · (listOf text))

end Field

end Form

end Json

end Recovery
