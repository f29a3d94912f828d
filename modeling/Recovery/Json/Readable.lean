import Recovery.Json.Record
/-!
# Readable values

What documents of one form are about: a draft is brought into the normal form, and the value is
made of that.
-/
set_option autoImplicit false

namespace Recovery

namespace Json

def read? (text : String) : Option Json := (Form.any (Draft.ofText text)).toOption

/-! Fields of a normal form. -/

variable {α : Type}

def required (j : Json) (name : String) (read : Json → Option α) : Option α :=
  (j.get? name).bind read

def optional (j : Json) (name : String) (read : Json → Option α) : Option (Option α) :=
  match j.get? name with
  | none => some none
  | some value => (read value).map some

def others (j : Json) (names : List String) : List (String × Json) :=
  match j with
  | .object fields => fields.filter fun f => !names.contains f.1
  | _ => []

def append : Json → List (String × Json) → Json
  | .object fields, more => .object (fields ++ more)
  | j, _ => j

class Readable (α : Type) where
  form : Form
  ofNormal? : Json → Option α

namespace Readable

def read [Readable α] (d : Draft) : Except ReadError α := do
  match ofNormal? (← form α d) with
  | some a => return a
  | none => .error .malformed

def ofJson? [Readable α] (j : Json) : Option α := (read (Draft.ofJson j)).toOption

def ofText [Readable α] (text : String) : Except ReadError α := read (Draft.ofText text)

end Readable

end Json

end Recovery
