import Recovery.Json.Reader
/-!
# Forms of JSON documents

A form says which drafts are accepted and brings them into a normal form. Parts are looked at in
the order in which they stand in the draft, and the first error counts, so that a text is only
found unfinished if nothing is wrong up to its end.
-/
set_option autoImplicit false

namespace Recovery

namespace Json

abbrev Form := Draft → Except ReadError Json

namespace Form

def text : Form
  | .string s => .ok (.string s)
  | d => .error d.refusal

def flag : Form
  | .bool b => .ok (.bool b)
  | d => .error d.refusal

def whole (lo hi : Int) : Form
  | .integer n => if lo ≤ n ∧ n ≤ hi then .ok (.integer n) else .error .malformed
  | d => .error d.refusal

def int32 : Form := whole (-2147483648) 2147483647

def int64 : Form := whole (-9223372036854775808) 9223372036854775807

def natural16 : Form := whole 0 65535

def natural32 : Form := whole 0 4294967295

def natural64 : Form := whole 0 18446744073709551615

def spelled {α : Type} (read : String → Option α) (write : α → String) : Form
  | .string s =>
    match read s with
    | some a => .ok (.string (write a))
    | none => .error .malformed
  | d => .error d.refusal

def passing (test : String → Bool) : Form
  | .string s => if test s then .ok (.string s) else .error .malformed
  | d => .error d.refusal

def exactly (expected : String) : Form := passing (· == expected)

def int32OrText : Form
  | .string s => .ok (.string s)
  | d => int32 d

/-- One of some names, alone or as the name of the only field of an object that holds null, or a
blank in its place. -/
def oneOf (names : List String) : Form
  | .string s => if names.contains s then .ok (.string s) else .error .malformed
  | .object [] (some damage) => .error damage.choosing
  | .object ((some name, value) :: rest) stop =>
    if !names.contains name then .error .malformed
    else
      match value, rest, stop with
      | .null, [], none | .blank, [], none => .ok (.string name)
      | .null, [], some damage => .error damage.choosing
      | .broken damage, _, _ => .error damage.reading
      | _, _, _ => .error .malformed
  | .broken damage => .error damage.choosing
  | _ => .error .malformed

def orNull (default : Json) (form : Form) : Form
  | .null => .ok default
  | d => form d

/-- What both forms take, as the first one gives it. -/
def both (first second : Form) (d : Draft) : Except ReadError Json := do
  let j ← first d
  let _ ← second d
  return j

/-! ## Parts -/

def close (value : Json) : Option Damage → Except ReadError Json
  | none => .ok value
  | some damage => .error damage.reading

def put {α : Type} (name : String) (value : α) (fields : List (String × α)) :
    List (String × α) :=
  fields.filter (·.1 != name) ++ [(name, value)]

def listOf (item : Form) : Form
  | .array items stop => do close (.array (← items.mapM item)) stop
  | d => .error d.refusal

def nameOf : Option String → Except ReadError String
  | some name => .ok name
  | none => .error .malformed

/-- Any names with values of one form; of a repeated name the last value counts. -/
def tableOf (value : Form) : Form
  | .object fields stop => do
    let read ← fields.foldlM (fun read (name, x) => do
      let name ← nameOf name
      return put name (← value x) read) []
    close (.object read) stop
  | .blank => .ok (.object [])
  | d => .error d.refusal

mutual

/-- Any value that can be read; of a repeated name the last field counts. -/
def any : Form
  | .null => .ok .null
  | .bool b => .ok (.bool b)
  | .integer n => .ok (.integer n)
  | .decimal s => .ok (.decimal s)
  | .string s => .ok (.string s)
  | .array items stop => do close (.array (← anyItems items)) stop
  | .object fields stop => do close (.object (← anyFields [] fields)) stop
  | .blank => .ok (.object [])
  | .garbled => .error .malformed
  | .broken damage => .error damage.reading

def anyItems : List Draft → Except ReadError (List Json)
  | [] => .ok []
  | x :: xs => do return (← any x) :: (← anyItems xs)

def anyFields (read : List (String × Json)) :
    List (Option String × Draft) → Except ReadError (List (String × Json))
  | [] => .ok read
  | (name, x) :: fields => do
    let name ← nameOf name
    anyFields (put name (← any x) read) fields

end

end Form

end Json

end Recovery
