import Recovery.Json.Token
/-!
# Drafts of JSON values

A draft is what a text holds, as far as it goes: a value some of whose parts may be unreadable,
and that may break off. Every text has a draft. What is asked of it decides whether it can be
read: a part that nobody asks for only has to be passed over.
-/
set_option autoImplicit false

namespace Recovery

namespace Json

inductive Draft where
  | null
  | bool (value : Bool)
  | integer (value : Int)
  | decimal (spelling : String)
  | string (value : String)
  /-- A whole value that can only be passed over. -/
  | garbled
  /-- Nothing more can be read or passed over from here. -/
  | broken (damage : Damage)
  | array (items : List Draft) (stop : Option Damage)
  /-- Fields, and what stands in place of the closing brace, if it is missing. The name of a field
  is none if it can only be passed over. -/
  | object (fields : List (Option String × Draft)) (stop : Option Damage)
  /-- An object without fields within a part that was set aside: it also stands for nothing. -/
  | blank
deriving Inhabited, Repr

namespace Draft

mutual

def ofJson : Json → Draft
  | .null => .null
  | .bool b => .bool b
  | .integer n => .integer n
  | .decimal s => .decimal s
  | .string s => .string s
  | .array items => .array (ofItems items) none
  | .object fields => .object (ofFields fields) none

def ofItems : List Json → List Draft
  | [] => []
  | x :: xs => ofJson x :: ofItems xs

def ofFields : List (String × Json) → List (Option String × Draft)
  | [] => []
  | (name, x) :: fs => (some name, ofJson x) :: ofFields fs

end

mutual

def skip? : Draft → Option ReadError
  | .broken damage => some damage.skipping
  | .array items stop => (skipItems? items).or (stop.map Damage.skipping)
  | .object fields stop => (skipFields? fields).or (stop.map Damage.skipping)
  | _ => none

def skipItems? : List Draft → Option ReadError
  | [] => none
  | x :: xs => (skip? x).or (skipItems? xs)

def skipFields? : List (Option String × Draft) → Option ReadError
  | [] => none
  | (_, x) :: fs => (skip? x).or (skipFields? fs)

end

mutual

/-- The draft of a part that is kept until it is known what it should be. -/
def setAside : Draft → Draft
  | .object [] none => .blank
  | .array items stop => .array (setAsideItems items) stop
  | .object fields stop => .object (setAsideFields fields) stop
  | d => d

def setAsideItems : List Draft → List Draft
  | [] => []
  | x :: xs => setAside x :: setAsideItems xs

def setAsideFields : List (Option String × Draft) → List (Option String × Draft)
  | [] => []
  | (name, x) :: fs => (name, setAside x) :: setAsideFields fs

end

/-- A value that must not be read; it is passed over unless an error is given. -/
def closed : Option ReadError → Draft
  | none => .garbled
  | some e => .broken ⟨.malformed, e, .malformed⟩

mutual

def limit (levels : Nat) (d : Draft) : Draft :=
  match d, levels with
  | .array items stop, levels + 1 => .array (limitItems levels items) stop
  | .object fields stop, levels + 1 => .object (limitFields levels fields) stop
  | .array items stop, 0 => closed (skip? (.array items stop))
  | .object fields stop, 0 => closed (skip? (.object fields stop))
  | d, _ => d

def limitItems (levels : Nat) : List Draft → List Draft
  | [] => []
  | x :: xs => limit levels x :: limitItems levels xs

def limitFields (levels : Nat) :
    List (Option String × Draft) → List (Option String × Draft)
  | [] => []
  | (name, x) :: fs => (name, limit levels x) :: limitFields levels fs

end

def refusal : Draft → ReadError
  | .broken damage => damage.reading
  | _ => .malformed

/-- Arrays and objects stand within at most 126 others. -/
def depth : Nat := 127

end Draft

end Json

end Recovery
