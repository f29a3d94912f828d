/-!
# JSON documents

A document keeps the order of its fields. Whole numbers of 64 bits, with or without a sign, are
kept apart from all others.
-/
set_option autoImplicit false

namespace Recovery

inductive Json where
  | null
  | bool (value : Bool)
  | integer (value : Int)
  /-- Any other number, in decimal notation; `-0` is one of them. -/
  | decimal (spelling : String)
  | string (value : String)
  | array (items : List Json)
  | object (fields : List (String × Json))
deriving Inhabited, Repr, BEq

namespace Json

def natural (n : Nat) : Json := .integer (n : Int)

def strings (xs : List String) : Json := .array (xs.map .string)

def record (fields : List (String × Option Json)) : Json :=
  .object (fields.filterMap fun (name, value) => value.map (name, ·))

def isNull : Json → Bool
  | .null => true
  | _ => false

def asString? : Json → Option String
  | .string s => some s
  | _ => none

def asBool? : Json → Option Bool
  | .bool b => some b
  | _ => none

def asInt? : Json → Option Int
  | .integer n => some n
  | _ => none

def asArray? : Json → Option (List Json)
  | .array xs => some xs
  | _ => none

def asObject? : Json → Option (List (String × Json))
  | .object fs => some fs
  | _ => none

def asNat? (j : Json) : Option Nat := j.asInt?.map Int.toNat

def asListOf? {α : Type} (read : Json → Option α) (j : Json) : Option (List α) :=
  j.asArray?.bind (·.mapM read)

/-- The field called `name`; of a repeated name the last one. -/
def get? (j : Json) (name : String) : Option Json :=
  match j with
  | .object fs => (fs.reverse.find? (·.1 == name)).map (·.2)
  | _ => none

@[simp] theorem asString?_string (s : String) : (Json.string s).asString? = some s := rfl

@[simp] theorem asBool?_bool (b : Bool) : (Json.bool b).asBool? = some b := rfl

@[simp] theorem asInt?_integer (n : Int) : (Json.integer n).asInt? = some n := rfl

@[simp] theorem asListOf?_array {α : Type} (read : Json → Option α) (xs : List Json) :
    (Json.array xs).asListOf? read = xs.mapM read := rfl

end Json

end Recovery
